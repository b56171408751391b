/-! # Letters and digits beyond ASCII

Whether a character is a letter or a digit in the sense of Unicode's Alphabetic and Numeric
properties. ASCII is decided exactly. Beyond it, a character counts as a letter or digit
unless it falls in one of the ranges below, which hold the Latin-1 signs, spacing and
combining marks, the punctuation, currency, arrow, mathematical, technical, box-drawing,
shape and dingbat blocks, CJK and full-width punctuation, private use, and the symbol and
emoji planes. Letters and digits of every script outside these ranges count.
-/

namespace SealedMail.Letters

/-- The ranges of characters above ASCII that are neither letters nor digits. -/
def signRanges : List (Nat × Nat) :=
  [(0x80, 0xa9), (0xab, 0xb1), (0xb4, 0xb4), (0xb6, 0xb8), (0xbb, 0xbb), (0xbf, 0xbf),
   (0xd7, 0xd7), (0xf7, 0xf7), (0x2c2, 0x2c5), (0x2d2, 0x2df), (0x2e5, 0x2eb), (0x2ed, 0x2ed),
   (0x2ef, 0x344), (0x346, 0x36f), (0x374, 0x375), (0x37e, 0x37e), (0x384, 0x385), (0x387, 0x387),
   (0x3f6, 0x3f6), (0x482, 0x489), (0x55a, 0x55f), (0x589, 0x58a), (0x58d, 0x58f), (0x591, 0x5af),
   (0x5be, 0x5be), (0x5c0, 0x5c0), (0x5c3, 0x5c3), (0x5c6, 0x5c6), (0x5f3, 0x5f4), (0x600, 0x60f),
   (0x61b, 0x61f), (0x66a, 0x66d), (0x6d4, 0x6d4), (0x6dd, 0x6de), (0x6e9, 0x6e9), (0x6fd, 0x6fe),
   (0x700, 0x70f), (0x964, 0x965), (0x970, 0x970), (0xe3f, 0xe3f), (0xe4f, 0xe4f), (0xe5a, 0xe5b),
   (0x1680, 0x1680), (0x2000, 0x206f), (0x207a, 0x207e), (0x208a, 0x208e), (0x20a0, 0x20ff),
   (0x2100, 0x2101), (0x2103, 0x2106), (0x2108, 0x2109), (0x2114, 0x2114), (0x2116, 0x2118),
   (0x211e, 0x2123), (0x2125, 0x2125), (0x2127, 0x2127), (0x2129, 0x2129), (0x212e, 0x212e),
   (0x213a, 0x213b), (0x2140, 0x2144), (0x214a, 0x214d), (0x214f, 0x214f), (0x2190, 0x245f),
   (0x249c, 0x24b5), (0x2500, 0x2775), (0x2794, 0x2bff), (0x2ce5, 0x2cea), (0x2cf9, 0x2cff),
   (0x2e00, 0x2fff), (0x3000, 0x3004), (0x3008, 0x3020), (0x302a, 0x3030), (0x3036, 0x3037),
   (0x303d, 0x303f), (0x3099, 0x309c), (0x30a0, 0x30a0), (0x30fb, 0x30fb), (0x3190, 0x3191),
   (0x3196, 0x319f), (0x31c0, 0x31ef), (0x3200, 0x321f), (0x322a, 0x3247), (0x3250, 0x3250),
   (0x3260, 0x327f), (0x328a, 0x32b0), (0x32c0, 0x33ff), (0x4dc0, 0x4dff), (0xa490, 0xa4cf),
   (0xa4fe, 0xa4ff), (0xa60d, 0xa60f), (0xa673, 0xa673), (0xa67e, 0xa67e), (0xa6f2, 0xa6f7),
   (0xa700, 0xa716), (0xa720, 0xa721), (0xa789, 0xa78a), (0xa828, 0xa82b), (0xa836, 0xa839),
   (0xd800, 0xf8ff), (0xfb29, 0xfb29), (0xfd3e, 0xfd3f), (0xfdfc, 0xfdff), (0xfe00, 0xfe6f),
   (0xfeff, 0xfeff), (0xff01, 0xff0f), (0xff1a, 0xff20), (0xff3b, 0xff40), (0xff5b, 0xff65),
   (0xffe0, 0xffff), (0x1d000, 0x1d24f), (0x1f000, 0x1f0ff), (0x1f10d, 0x1f12f),
   (0x1f16a, 0x1f16f), (0x1f18a, 0x1faff), (0xe0000, 0x10ffff)]

/-- Whether a character is a letter or a digit. -/
def isAlphanumeric (c : Char) : Bool :=
  let n := c.toNat
  if n < 0x80 then c.isAlphanum
  else !signRanges.any (fun (lo, hi) => lo ≤ n && n ≤ hi)

end SealedMail.Letters
