import RemoteDriver.Text.Composed
import RemoteDriver.Text.Unassigned
import RemoteDriver.Url.Domain.Spelling

/-!
# How domain names are read

Names that look alike are to be one name: a domain name is read in lower case and in the plainest
form of its characters, characters that do not show are left out, and what is left is composed.
Some characters no name has.
-/

namespace RemoteDriver.Url.Domain

/-- Characters in a row that are read as others in a row: the first, the last, and what the first
is read as. -/
def shiftedRanges : List (Nat × Nat × Nat) :=
  [(0xC0, 0xD6, 0xE0), (0xD8, 0xDE, 0xF8), (0x388, 0x38A, 0x3AD), (0x391, 0x3A1, 0x3B1),
   (0x3A3, 0x3AB, 0x3C3), (0x3FD, 0x3FF, 0x37B), (0x400, 0x40F, 0x450), (0x410, 0x42F, 0x430),
   (0x531, 0x556, 0x561), (0x10A0, 0x10C5, 0x2D00), (0x13F8, 0x13FD, 0x13F0),
   (0x1C90, 0x1CBA, 0x10D0), (0x1CBD, 0x1CBF, 0x10FD), (0x1D5D, 0x1D5F, 0x3B2),
   (0x1DA4, 0x1DA6, 0x268), (0x1DAE, 0x1DB1, 0x272), (0x1DBC, 0x1DBE, 0x290),
   (0x1F08, 0x1F0F, 0x1F00), (0x1F18, 0x1F1D, 0x1F10), (0x1F28, 0x1F2F, 0x1F20),
   (0x1F38, 0x1F3F, 0x1F30), (0x1F48, 0x1F4D, 0x1F40), (0x1F68, 0x1F6F, 0x1F60),
   (0x2074, 0x2079, 0x34), (0x2080, 0x2089, 0x30), (0x2096, 0x2099, 0x6B), (0x2119, 0x211B, 0x70),
   (0x2135, 0x2138, 0x5D0), (0x2460, 0x2468, 0x31), (0x24B6, 0x24CF, 0x61), (0x24D0, 0x24E9, 0x61),
   (0x2C00, 0x2C2F, 0x2C30), (0x3137, 0x3139, 0x1103), (0x313A, 0x313F, 0x11B0),
   (0x3141, 0x3143, 0x1106), (0x3145, 0x314E, 0x1109), (0x314F, 0x3163, 0x1161),
   (0x3178, 0x317C, 0x112B), (0x3184, 0x3186, 0x1157), (0x3263, 0x3265, 0x1105),
   (0x3269, 0x326D, 0x110E), (0x32E4, 0x32E9, 0x30CA), (0x32EE, 0x32F2, 0x30DE),
   (0x32F5, 0x32FA, 0x30E8), (0x32FB, 0x32FE, 0x30EF), (0xAB70, 0xABBF, 0x13A0),
   (0xFB24, 0xFB26, 0x5DB), (0xFE41, 0xFE44, 0x300C), (0xFF21, 0xFF3A, 0x61),
   (0xFF3F, 0xFF5B, 0x5F), (0xFF85, 0xFF8A, 0x30CA), (0xFF8F, 0xFF93, 0x30DE),
   (0xFF96, 0xFF9B, 0x30E8), (0xFFA7, 0xFFA9, 0x1103), (0xFFAA, 0xFFAF, 0x11B0),
   (0xFFB1, 0xFFB3, 0x1106), (0xFFB5, 0xFFBE, 0x1109), (0xFFC2, 0xFFC7, 0x1161),
   (0xFFCA, 0xFFCF, 0x1167), (0xFFD2, 0xFFD7, 0x116D), (0xFFDA, 0xFFDC, 0x1173),
   (0xFFE9, 0xFFEC, 0x2190), (0x10400, 0x10427, 0x10428), (0x104B0, 0x104D3, 0x104D8),
   (0x107B6, 0x107B8, 0x1C0), (0x10C80, 0x10CB2, 0x10CC0), (0x10D50, 0x10D65, 0x10D70),
   (0x118A0, 0x118BF, 0x118C0), (0x16E40, 0x16E5F, 0x16E60), (0x16EA0, 0x16EB8, 0x16EBB),
   (0x1CCD6, 0x1CCEF, 0x61), (0x1CCF0, 0x1CCF9, 0x30), (0x1D400, 0x1D419, 0x61),
   (0x1D41A, 0x1D433, 0x61), (0x1D434, 0x1D44D, 0x61), (0x1D468, 0x1D481, 0x61),
   (0x1D482, 0x1D49B, 0x61), (0x1D4A9, 0x1D4AC, 0x6E), (0x1D4AE, 0x1D4B5, 0x73),
   (0x1D4B6, 0x1D4B9, 0x61), (0x1D4D0, 0x1D4E9, 0x61), (0x1D4EA, 0x1D503, 0x61),
   (0x1D50D, 0x1D514, 0x6A), (0x1D516, 0x1D51C, 0x73), (0x1D51E, 0x1D537, 0x61),
   (0x1D54A, 0x1D550, 0x73), (0x1D552, 0x1D56B, 0x61), (0x1D56C, 0x1D585, 0x61),
   (0x1D586, 0x1D59F, 0x61), (0x1D5A0, 0x1D5B9, 0x61), (0x1D5BA, 0x1D5D3, 0x61),
   (0x1D5D4, 0x1D5ED, 0x61), (0x1D5EE, 0x1D607, 0x61), (0x1D608, 0x1D621, 0x61),
   (0x1D622, 0x1D63B, 0x61), (0x1D63C, 0x1D655, 0x61), (0x1D656, 0x1D66F, 0x61),
   (0x1D670, 0x1D689, 0x61), (0x1D68A, 0x1D6A3, 0x61), (0x1D6A8, 0x1D6B8, 0x3B1),
   (0x1D6BA, 0x1D6C0, 0x3C3), (0x1D6C2, 0x1D6D2, 0x3B1), (0x1D6D4, 0x1D6DA, 0x3C3),
   (0x1D6E2, 0x1D6F2, 0x3B1), (0x1D6F4, 0x1D6FA, 0x3C3), (0x1D6FC, 0x1D70C, 0x3B1),
   (0x1D70E, 0x1D714, 0x3C3), (0x1D71C, 0x1D72C, 0x3B1), (0x1D72E, 0x1D734, 0x3C3),
   (0x1D736, 0x1D746, 0x3B1), (0x1D748, 0x1D74E, 0x3C3), (0x1D756, 0x1D766, 0x3B1),
   (0x1D768, 0x1D76E, 0x3C3), (0x1D770, 0x1D780, 0x3B1), (0x1D782, 0x1D788, 0x3C3),
   (0x1D790, 0x1D7A0, 0x3B1), (0x1D7A2, 0x1D7A8, 0x3C3), (0x1D7AA, 0x1D7BA, 0x3B1),
   (0x1D7BC, 0x1D7C2, 0x3C3), (0x1D7CE, 0x1D7D7, 0x30), (0x1D7D8, 0x1D7E1, 0x30),
   (0x1D7E2, 0x1D7EB, 0x30), (0x1D7EC, 0x1D7F5, 0x30), (0x1D7F6, 0x1D7FF, 0x30),
   (0x1E030, 0x1E038, 0x430), (0x1E039, 0x1E03B, 0x43A), (0x1E03C, 0x1E046, 0x43E),
   (0x1E051, 0x1E059, 0x430), (0x1E05F, 0x1E064, 0x443), (0x1E900, 0x1E921, 0x1E922),
   (0x1EE0A, 0x1EE0D, 0x643), (0x1EE2A, 0x1EE2D, 0x643), (0x1EE8B, 0x1EE8D, 0x644),
   (0x1EEAB, 0x1EEAD, 0x644), (0x1F130, 0x1F149, 0x61), (0x1FBF0, 0x1FBF9, 0x30)]

/-- Characters of which every other one is read as another, from the first to the last, and what
the first is read as: letters whose two cases stand side by side. -/
def alternatingRanges : List (Nat × Nat × Nat) :=
  [(0x100, 0x12E, 0x101), (0x139, 0x13D, 0x13A), (0x141, 0x147, 0x142), (0x14A, 0x176, 0x14B),
   (0x179, 0x17D, 0x17A), (0x1A0, 0x1A4, 0x1A1), (0x1CD, 0x1DB, 0x1CE), (0x1DE, 0x1EE, 0x1DF),
   (0x1F8, 0x21E, 0x1F9), (0x222, 0x232, 0x223), (0x246, 0x24E, 0x247), (0x3D8, 0x3EE, 0x3D9),
   (0x460, 0x480, 0x461), (0x48A, 0x4BE, 0x48B), (0x4C1, 0x4CD, 0x4C2), (0x4D0, 0x52E, 0x4D1),
   (0x1D31, 0x1D39, 0x65), (0x1D34, 0x1D3A, 0x68), (0x1E00, 0x1E94, 0x1E01),
   (0x1EA0, 0x1EFE, 0x1EA1), (0x1F59, 0x1F5F, 0x1F51), (0x2C67, 0x2C6B, 0x2C68),
   (0x2C80, 0x2CE2, 0x2C81), (0xA640, 0xA66C, 0xA641), (0xA680, 0xA69A, 0xA681),
   (0xA722, 0xA72E, 0xA723), (0xA732, 0xA76E, 0xA733), (0xA77E, 0xA786, 0xA77F),
   (0xA796, 0xA7A8, 0xA797), (0xA7B4, 0xA7C2, 0xA7B5), (0xA7CC, 0xA7DA, 0xA7CD),
   (0xFF02, 0xFF18, 0x22), (0xFF07, 0xFF0D, 0x27), (0xFF11, 0xFF1D, 0x31),
   (0x10570, 0x10594, 0x10597), (0x10571, 0x10579, 0x10598), (0x1057D, 0x10589, 0x105A4),
   (0x1058D, 0x10591, 0x105B4), (0x1D44E, 0x1D466, 0x61), (0x1D44F, 0x1D453, 0x62),
   (0x1D457, 0x1D467, 0x6A), (0x1D4BB, 0x1D4CF, 0x66), (0x1D4BE, 0x1D4C2, 0x69),
   (0x1D4C6, 0x1D4CE, 0x71), (0x1D505, 0x1D509, 0x62), (0x1D539, 0x1D53D, 0x62),
   (0x1D53C, 0x1D546, 0x65)]

/-- Characters that a name is read without. -/
def ignoredRanges : Text.Ranges :=
  [(0xAD, 0xAD), (0x34F, 0x34F), (0x115F, 0x1160), (0x17B4, 0x17B5), (0x180B, 0x180F),
   (0x200B, 0x200B), (0x2060, 0x2064), (0x206A, 0x206F), (0x3164, 0x3164), (0xFE00, 0xFE0F),
   (0xFEFF, 0xFEFF), (0xFFA0, 0xFFA0), (0x1BCA0, 0x1BCA3), (0x1D173, 0x1D17A), (0xE0100, 0xE01EF)]

/-- Characters that no name has, because they are not letters of a name or because their plainest
form is not. -/
def refusedRanges : Text.Ranges :=
  [(0x80, 0xA0), (0xA8, 0xA8), (0xAF, 0xAF), (0xB4, 0xB4), (0xB8, 0xB8), (0x2D8, 0x2DD),
   (0x37A, 0x37A), (0x384, 0x385), (0x600, 0x605), (0x61C, 0x61C), (0x6DD, 0x6DD), (0x70F, 0x70F),
   (0x890, 0x891), (0x8E2, 0x8E2), (0x1680, 0x1680), (0x1FBD, 0x1FBD), (0x1FBF, 0x1FC1),
   (0x1FCD, 0x1FCF), (0x1FDD, 0x1FDF), (0x1FED, 0x1FEE), (0x1FFD, 0x1FFE), (0x2000, 0x200A),
   (0x200E, 0x200F), (0x2017, 0x2017), (0x2024, 0x2026), (0x2028, 0x202F), (0x203E, 0x203E),
   (0x2047, 0x2049), (0x205F, 0x205F), (0x2066, 0x2069), (0x2100, 0x2101), (0x2105, 0x2106),
   (0x2488, 0x249B), (0x2A74, 0x2A74), (0x2FF0, 0x3000), (0x309B, 0x309C), (0x31EF, 0x31EF),
   (0x33C2, 0x33C2), (0x33C7, 0x33C7), (0x33D8, 0x33D8), (0xFC5E, 0xFC63), (0xFDFA, 0xFDFB),
   (0xFE12, 0xFE13), (0xFE16, 0xFE16), (0xFE19, 0xFE19), (0xFE30, 0xFE30), (0xFE47, 0xFE4C),
   (0xFE52, 0xFE52), (0xFE55, 0xFE56), (0xFE5F, 0xFE5F), (0xFE64, 0xFE65), (0xFE68, 0xFE68),
   (0xFE6A, 0xFE6B), (0xFE70, 0xFE70), (0xFE72, 0xFE72), (0xFE74, 0xFE74), (0xFE76, 0xFE76),
   (0xFE78, 0xFE78), (0xFE7A, 0xFE7A), (0xFE7C, 0xFE7C), (0xFE7E, 0xFE7E), (0xFF03, 0xFF03),
   (0xFF05, 0xFF05), (0xFF0F, 0xFF0F), (0xFF1A, 0xFF1A), (0xFF1C, 0xFF1C), (0xFF1E, 0xFF20),
   (0xFF3B, 0xFF3E), (0xFF5C, 0xFF5C), (0xFFE3, 0xFFE3), (0xFFF9, 0xFFFD), (0x110BD, 0x110BD),
   (0x110CD, 0x110CD), (0x13430, 0x1343F), (0x1F100, 0x1F100), (0xE0001, 0xE0001),
   (0xE0020, 0xE007F)]

/-- What a character is read as by its distance from others. -/
def shifted? (n : Nat) : Option Char :=
  match shiftedRanges.find? fun (low, high, _) => low ≤ n && n ≤ high with
  | some (low, _, image) => some (Char.ofNat (image + (n - low)))
  | none =>
    let isUpper (low high : Nat) : Bool := low ≤ n && n ≤ high && (n - low) % 2 == 0
    match alternatingRanges.find? fun (low, high, _) => isUpper low high with
    | some (low, _, image) => some (Char.ofNat (image + (n - low)))
    | none => none

/-- What a character is read as, if a name may have it. -/
def reading? (c : Char) : Option (List Char) :=
  let n := c.toNat
  if n < 0x80 then some [c.toLower]
  else if ignoredRanges.has c then some []
  else if refusedRanges.has c || Text.isUnassigned c then none
  else match shifted? n with
    | some d => some [d]
    | none => some ((spellings.lookup n).getD [c])

/-- The ASCII characters that no name has. -/
def isForbidden (c : Char) : Bool :=
  c.toNat ≤ 0x20 || c.toNat = 0x7F || "#/:<>?@[\\]^|%".toList.contains c

/-- A name as it is read. -/
def read? (s : List Char) : Option (List Char) := do
  let readings ← s.mapM reading?
  let name := Text.composed readings.flatten
  if name.any isForbidden then none else some name

/-- Whether a name is read as it stands. -/
def isPlain (s : List Char) : Bool := s.all (reading? · != some []) && read? s == some s

end RemoteDriver.Url.Domain
