import Std.Time
import SealedMail.Cli.Run

/-! # The command-line program

The program's work is `Cli.runProgram`, a function of its arguments, environment, time,
standard input and files. This module gives it those from the operating system: the
variables the tool and its `.env` file can name, the files and directories that the
command names (and the directories on the way to them), standard input when the command
reads it, the clock and fresh random bytes. Afterwards it writes the files the run made or
changed, the two output streams and the exit status.
-/

namespace SealedMail.Cli

/-- The environment variables the program looks at. -/
def knownVariables : List String :=
  ["PMCRYPTO_PASSPHRASE", "PMCRYPTO_CIPHER", "PMCRYPTO_HASH", "PMCRYPTO_S2K_COUNT", "PMCRYPTO_RSA_BITS",
    "PMCRYPTO_ARMOR_COMMENT", "HOME", "USER", "PATH", "PWD", "SHELL", "LANG", "TMPDIR"]

/-- Add what a path holds to the workspace: a regular file with its contents, a directory
as a directory; a path that cannot be read adds nothing. -/
def loadEntry (w : Workspace) (k : PathKey) : IO Workspace := do
  if k.parts.isEmpty then return w
  try
    let b ← IO.FS.readBinFile k.text
    return w.put k.text b
  catch e =>
    match e with
    | .inappropriateType _ 21 _ => return { w with dirs := w.dirs ++ [k.text] }
    | _ => return w

/-- Add a path and the directories on the way to it. -/
def loadPath (w : Workspace) (path : String) : IO Workspace := do
  let k := PathKey.ofPath path
  let w ← k.ancestors.foldlM loadEntry w
  loadEntry w k

/-- The seconds since the epoch. -/
def clockNow : IO Int := do
  return (← Std.Time.Timestamp.now).toSecondsSinceUnixEpoch.val

end SealedMail.Cli

open SealedMail SealedMail.Cli in
/-- Run the tool with the arguments, on the real environment, files and streams. -/
def main (args : List String) : IO UInt32 := do
  let env ← knownVariables.filterMapM (fun n => do return (← IO.getEnv n).map (n, ·))
  let w ← loadPath {} ".env"
  let lookup := fun k => (environmentWithFile env w).lookup k
  let request := (readCommandLine lookup args).toOption.map (·.request)
  let w ← ((request.map Request.touches).getD []).foldlM loadPath w
  let stdin ← if (request.map Request.readsStdin).getD false then (← IO.getStdin).readBinToEnd
    else pure ByteArray.empty
  let exit := runProgram args env (← clockNow) stdin w (Entropy.ofSeed (← IO.getRandomBytes 32))
  for (k, b) in exit.workspace.files do
    if (w.file? k).map (·.data) != some b.data then IO.FS.writeBinFile k b
  let out ← IO.getStdout
  out.write exit.stdout
  out.flush
  let err ← IO.getStderr
  err.putStr exit.stderr
  err.flush
  return exit.code.toUInt32
