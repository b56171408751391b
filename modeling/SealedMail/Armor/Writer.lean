import SealedMail.Armor.Crc24
import SealedMail.Armor.Block
import SealedMail.Text.Base64

/-! # Writing armor

A block is written as its header line, one `Key: value` line per header, a blank line, the
base64 of the data in lines of 64 characters, the checksum line and the footer line, each
line ended by a line feed.
-/

namespace SealedMail.Armor

/-- Cut a text into pieces of `n` characters (the last may be shorter). -/
def chunksOf (n : Nat) (cs : List Char) : List String :=
  go cs (cs.length + 1)
where
  go (cs : List Char) : Nat → List String
    | 0 => []
    | fuel + 1 => if cs.isEmpty then [] else String.ofList (cs.take n) :: go (cs.drop n) fuel

/-- The armored text of `data` as a block of kind `kind` with the given headers. -/
def write (kind : BlockKind) (headers : List (String × String)) (data : ByteArray) : String :=
  let sum := Crc24.checksum data
  let sumBytes := ByteArray.mk #[(sum / 65536).toUInt8, (sum / 256).toUInt8, sum.toUInt8]
  let body := "\n".intercalate (chunksOf 64 (Base64.encode data).toList)
  "-----BEGIN " ++ kind.label ++ "-----\n" ++
    String.join (headers.map (fun (k, v) => k ++ ": " ++ v ++ "\n")) ++ "\n" ++
    body ++ "\n=" ++ Base64.encode sumBytes ++ "\n-----END " ++ kind.label ++ "-----\n"

end SealedMail.Armor
