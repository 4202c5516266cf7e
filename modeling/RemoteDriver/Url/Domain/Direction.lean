import RemoteDriver.Text.Mark

/-!
# Directions in domain names

A name with characters that are written from right to left has to look the same wherever it
stands.  So each of its labels keeps to one direction, and begins and ends with characters that
have one.
-/

namespace RemoteDriver.Url.Domain

/-- The direction that a character is written in. -/
inductive Direction
  /-- It is written from left to right. -/
  | leftToRight
  /-- It is written from right to left. -/
  | rightToLeft
  /-- It is a digit of a number from left to right. -/
  | europeanNumber
  /-- It is a digit of a number inside of right-to-left text. -/
  | arabicNumber
  /-- It takes the direction of the character before it. -/
  | mark
  /-- It takes the direction of the text around it. -/
  | neutral
deriving DecidableEq, Repr

/-- Letters written from right to left.  Here and below, ranges run over numbers without
characters. -/
def rightToLeftRanges : Text.Ranges :=
  [(0x5BE, 0x5BE), (0x5C0, 0x5C0), (0x5C3, 0x5C3), (0x5C6, 0x5C6), (0x5D0, 0x5F4), (0x608, 0x608),
   (0x60B, 0x60B), (0x60D, 0x60D), (0x61B, 0x61B), (0x61D, 0x64A), (0x66D, 0x66F), (0x671, 0x674),
   (0x679, 0x6D5), (0x6E5, 0x6E6), (0x6EE, 0x6EF), (0x6FA, 0x70D), (0x710, 0x710), (0x712, 0x72F),
   (0x74D, 0x7A5), (0x7B1, 0x7EA), (0x7F4, 0x7F5), (0x7FA, 0x7FA), (0x7FE, 0x815), (0x81A, 0x81A),
   (0x824, 0x824), (0x828, 0x828), (0x830, 0x858), (0x85E, 0x88F), (0x8A0, 0x8C9), (0xFBB2, 0xFBC2),
   (0xFE73, 0xFE73), (0x10800, 0x1091B), (0x10920, 0x10A00), (0x10A10, 0x10A35), (0x10A40, 0x10AE4),
   (0x10AEB, 0x10B35), (0x10B40, 0x10C48), (0x10CC0, 0x10D23), (0x10D4A, 0x10D4F),
   (0x10D6F, 0x10D8F), (0x10E80, 0x10EA9), (0x10EAD, 0x10EC7), (0x10F00, 0x10F45),
   (0x10F51, 0x10F81), (0x10F86, 0x10FF6), (0x1E800, 0x1E8CF), (0x1E922, 0x1E943),
   (0x1E94B, 0x1ED3D)]

/-- Digits of numbers from left to right. -/
def europeanNumberRanges : Text.Ranges := [(0x30, 0x39), (0x6F0, 0x6F9), (0x102E1, 0x102FB)]

/-- Digits of numbers inside of right-to-left text. -/
def arabicNumberRanges : Text.Ranges :=
  [(0x660, 0x669), (0x66B, 0x66C), (0x10D30, 0x10D49), (0x10E60, 0x10E7E)]

/-- Characters without a direction of their own. -/
def neutralRanges : Text.Ranges :=
  [(0x21, 0x2F), (0x3A, 0x40), (0x5B, 0x60), (0x7B, 0x7F), (0xA1, 0xA7), (0xA9, 0xA9), (0xAB, 0xAC),
   (0xAE, 0xAE), (0xB0, 0xB1), (0xB6, 0xB7), (0xBB, 0xBB), (0xBF, 0xBF), (0xD7, 0xD7), (0xF7, 0xF7),
   (0x2B9, 0x2BA), (0x2C2, 0x2CF), (0x2D2, 0x2D7), (0x2DE, 0x2DF), (0x2E5, 0x2ED), (0x2EF, 0x2FF),
   (0x375, 0x375), (0x3F6, 0x3F6), (0x58A, 0x58F), (0x606, 0x607), (0x609, 0x60A), (0x60C, 0x60C),
   (0x60E, 0x60F), (0x66A, 0x66A), (0x6DE, 0x6DE), (0x6E9, 0x6E9), (0x7F6, 0x7F9), (0x9F2, 0x9F3),
   (0x9FB, 0x9FB), (0xAF1, 0xAF1), (0xBF3, 0xBFA), (0xC78, 0xC7E), (0xE3F, 0xE3F), (0xF3A, 0xF3D),
   (0x1390, 0x1399), (0x1400, 0x1400), (0x169B, 0x169C), (0x17DB, 0x17DB), (0x17F0, 0x180A),
   (0x1940, 0x1945), (0x19DE, 0x19FF), (0x200C, 0x200D), (0x2010, 0x2010), (0x2012, 0x2016),
   (0x2018, 0x2023), (0x2027, 0x2027), (0x2030, 0x2032), (0x2035, 0x2035), (0x2038, 0x203B),
   (0x203D, 0x203D), (0x203F, 0x2046), (0x204A, 0x2056), (0x2058, 0x205E), (0x20A0, 0x20A7),
   (0x20A9, 0x20C1), (0x2104, 0x2104), (0x2108, 0x2108), (0x2114, 0x2114), (0x2117, 0x2118),
   (0x211E, 0x211F), (0x2123, 0x2123), (0x2125, 0x2125), (0x2127, 0x2127), (0x2129, 0x2129),
   (0x212E, 0x212E), (0x213A, 0x213A), (0x2141, 0x2144), (0x214A, 0x214D), (0x218A, 0x222B),
   (0x222E, 0x222E), (0x2231, 0x2328), (0x232B, 0x2335), (0x237B, 0x2394), (0x2396, 0x244A),
   (0x24EB, 0x26AB), (0x26AD, 0x27FF), (0x2900, 0x2A0B), (0x2A0D, 0x2A73), (0x2A77, 0x2ADB),
   (0x2ADD, 0x2BFF), (0x2CE5, 0x2CEA), (0x2CF9, 0x2CFF), (0x2E00, 0x2E9E), (0x2EA0, 0x2EF2),
   (0x3001, 0x3001), (0x3003, 0x3004), (0x3008, 0x3020), (0x3030, 0x3030), (0x3037, 0x3037),
   (0x303D, 0x303F), (0x30A0, 0x30A0), (0x30FB, 0x30FB), (0x31C0, 0x31E5), (0x4DC0, 0x4DFF),
   (0xA490, 0xA4C6), (0xA60D, 0xA60F), (0xA673, 0xA673), (0xA67E, 0xA67F), (0xA700, 0xA721),
   (0xA788, 0xA788), (0xA828, 0xA82B), (0xA838, 0xA839), (0xA874, 0xA877), (0xAB6A, 0xAB6B),
   (0xFBC3, 0xFBD2), (0xFD3E, 0xFD4F), (0xFD90, 0xFD91), (0xFDC8, 0xFDCF), (0xFDFD, 0xFDFF),
   (0xFE45, 0xFE46), (0x10101, 0x10101), (0x10140, 0x1018C), (0x10190, 0x101A0), (0x1091F, 0x1091F),
   (0x10B39, 0x10B3F), (0x10D6E, 0x10D6E), (0x10ED0, 0x10ED8), (0x11052, 0x11065),
   (0x11660, 0x1166C), (0x11FD5, 0x11FF1), (0x16FE2, 0x16FE2), (0x1CC00, 0x1CCD5),
   (0x1CCFA, 0x1CEF0), (0x1D1E9, 0x1D241), (0x1D245, 0x1D245), (0x1D300, 0x1D356),
   (0x1E2FF, 0x1E2FF), (0x1EEF0, 0x1F0F5), (0x1F10B, 0x1F10F), (0x1F12F, 0x1F12F),
   (0x1F16D, 0x1F16F), (0x1F1AD, 0x1F1AD), (0x1F260, 0x1FBEF), (0x1FBFA, 0x1FBFA)]

/-- Marks that nevertheless count as letters from left to right. -/
def directedMarks : List Nat := [0xCBF, 0xCC6, 0x11A07, 0x11A08, 0x11C3F]

/-- The direction of a character. -/
def direction (c : Char) : Direction :=
  if europeanNumberRanges.has c then .europeanNumber
  else if neutralRanges.has c then .neutral
  else if c.toNat < 0x80 then .leftToRight
  else if Text.isNonspacing c && !directedMarks.contains c.toNat then .mark
  else if arabicNumberRanges.has c then .arabicNumber
  else if rightToLeftRanges.has c then .rightToLeft
  else .leftToRight

/-- Whether a label with these directions keeps to the direction of its first character.  Marks at
the end do not count, and numbers of the two kinds do not mix. -/
def keepsDirection (label : List Direction) : Bool :=
  match label with
  | [] => true
  | first :: rest =>
    let body := (rest.reverse.dropWhile (· == .mark)).reverse
    let ends (allowed : List Direction) : Bool :=
      match body.getLast? with
      | some last => allowed.contains last
      | none => true
    match first with
    | .leftToRight =>
      ends [.leftToRight, .europeanNumber]
        && body.all fun d => d != .rightToLeft && d != .arabicNumber
    | .rightToLeft =>
      ends [.rightToLeft, .europeanNumber, .arabicNumber]
        && body.all (· != .leftToRight)
        && !(body.contains .europeanNumber && body.contains .arabicNumber)
    | _ => false

/-- Whether the labels of a name keep their directions, if any character of it asks for that. -/
def directionsFit (labels : List (List Char)) : Bool :=
  let directions := labels.map (·.map direction)
  let bidirectional := directions.any (·.any fun d => d == .rightToLeft || d == .arabicNumber)
  !bidirectional || directions.all keepsDirection

end RemoteDriver.Url.Domain
