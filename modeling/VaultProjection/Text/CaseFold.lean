import VaultProjection.Text.Basic
import VaultProjection.Text.CodeTable
/-!
Case folding: which characters are the same letter if small and capital letters are not told apart.
Only letters that are single characters in either case are matched up.
-/

namespace VaultProjection.Text

/-- The other forms of the letters of a span. -/
inductive CaseRule where
  /-- Each of them has these. -/
  | codes (others : List Nat)
  /-- Each of them has the one at its place in a row. -/
  | row (first : Nat)
  /-- They are pairs of neighbours. -/
  | pairs
  deriving Repr

def CaseRule.ofMark (mark : List Char) : CaseRule :=
  match mark with
  | '>' :: list => .codes ((pieces '.' list).map CodeTable.code)
  | '+' :: code => .row (CodeTable.code code)
  | _ => .pairs

/-- The letters that have other forms. -/
def caseRules : CodeTable CaseRule := .read .ofMark
  "41-4A+61 4B>6B.212A 4C-52+6C 53>73.17F 54-5A+74 61-6A+41 6B>4B.212A 6C-72+4C 73>53.17F 74-7A+54
  B5>39C.3BC C0-C4+E0 C5>E5.212B C6-D6+E6 D8-DE+F8 DF+1E9E E0-E4+C0 E5>C5.212B E6-F6+C6 F8-FE+D8
  FF+178 100-12F/ 132-137/ 139-148/ 14A-177/ 178+FF 179-17E/ 17F>53.73 180+243 181+253 182-185/
  186+254 187-188/ 189-18A+256 18B-18C/ 18E+1DD 18F+259 190+25B 191-192/ 193+260 194+263 195+1F6
  196+269 197+268 198-199/ 19A+23D 19B+A7DC 19C+26F 19D+272 19E+220 19F+275 1A0-1A5/ 1A6+280
  1A7-1A8/ 1A9+283 1AC-1AD/ 1AE+288 1AF-1B0/ 1B1-1B2+28A 1B3-1B6/ 1B7+292 1B8-1B9/ 1BC-1BD/
  1BF+1F7 1C4>1C5.1C6 1C5>1C4.1C6 1C6>1C4.1C5 1C7>1C8.1C9 1C8>1C7.1C9 1C9>1C7.1C8 1CA>1CB.1CC
  1CB>1CA.1CC 1CC>1CA.1CB 1CD-1DC/ 1DD+18E 1DE-1EF/ 1F1>1F2.1F3 1F2>1F1.1F3 1F3>1F1.1F2 1F4-1F5/
  1F6+195 1F7+1BF 1F8-21F/ 220+19E 222-233/ 23A+2C65 23B-23C/ 23D+19A 23E+2C66 23F-240+2C7E
  241-242/ 243+180 244+289 245+28C 246-24F/ 250+2C6F 251+2C6D 252+2C70 253+181 254+186 256-257+189
  259+18F 25B+190 25C+A7AB 260+193 261+A7AC 263+194 264+A7CB 265+A78D 266+A7AA 268+197 269+196
  26A+A7AE 26B+2C62 26C+A7AD 26F+19C 271+2C6E 272+19D 275+19F 27D+2C64 280+1A6 282+A7C5 283+1A9
  287+A7B1 288+1AE 289+244 28A-28B+1B1 28C+245 292+1B7 29D+A7B2 29E+A7B0 345>399.3B9.1FBE 370-373/
  376-377/ 37B-37D+3FD 37F+3F3 386+3AC 388-38A+3AD 38C+3CC 38E-38F+3CD 390+1FD3 391+3B1
  392>3B2.3D0 393-394+3B3 395>3B5.3F5 396-397+3B6 398>3B8.3D1.3F4 399>345.3B9.1FBE 39A>3BA.3F0
  39B+3BB 39C>B5.3BC 39D-39F+3BD 3A0>3C0.3D6 3A1>3C1.3F1 3A3>3C2.3C3 3A4-3A5+3C4 3A6>3C6.3D5
  3A7-3A8+3C7 3A9>3C9.2126 3AA-3AB+3CA 3AC+386 3AD-3AF+388 3B0+1FE3 3B1+391 3B2>392.3D0
  3B3-3B4+393 3B5>395.3F5 3B6-3B7+396 3B8>398.3D1.3F4 3B9>345.399.1FBE 3BA>39A.3F0 3BB+39B
  3BC>B5.39C 3BD-3BF+39D 3C0>3A0.3D6 3C1>3A1.3F1 3C2>3A3.3C3 3C3>3A3.3C2 3C4-3C5+3A4 3C6>3A6.3D5
  3C7-3C8+3A7 3C9>3A9.2126 3CA-3CB+3AA 3CC+38C 3CD-3CE+38E 3CF+3D7 3D0>392.3B2 3D1>398.3B8.3F4
  3D5>3A6.3C6 3D6>3A0.3C0 3D7+3CF 3D8-3EF/ 3F0>39A.3BA 3F1>3A1.3C1 3F2+3F9 3F3+37F 3F4>398.3B8.3D1
  3F5>395.3B5 3F7-3F8/ 3F9+3F2 3FA-3FB/ 3FD-3FF+37B 400-40F+450 410-411+430 412>432.1C80 413+433
  414>434.1C81 415-41D+435 41E>43E.1C82 41F-420+43F 421>441.1C83 422>442.1C84.1C85 423-429+443
  42A>44A.1C86 42B-42F+44B 430-431+410 432>412.1C80 433+413 434>414.1C81 435-43D+415 43E>41E.1C82
  43F-440+41F 441>421.1C83 442>422.1C84.1C85 443-449+423 44A>42A.1C86 44B-44F+42B 450-45F+400
  460-461/ 462>463.1C87 463>462.1C87 464-481/ 48A-4BF/ 4C0+4CF 4C1-4CE/ 4CF+4C0 4D0-52F/
  531-556+561 561-586+531 10A0-10C5+2D00 10C7+2D27 10CD+2D2D 10D0-10FA+1C90 10FD-10FF+1CBD
  13A0-13EF+AB70 13F0-13F5+13F8 13F8-13FD+13F0 1C80>412.432 1C81>414.434 1C82>41E.43E 1C83>421.441
  1C84>422.442.1C85 1C85>422.442.1C84 1C86>42A.44A 1C87>462.463 1C88>A64A.A64B 1C89-1C8A/
  1C90-1CBA+10D0 1CBD-1CBF+10FD 1D79+A77D 1D7D+2C63 1D8E+A7C6 1E00-1E5F/ 1E60>1E61.1E9B
  1E61>1E60.1E9B 1E62-1E95/ 1E9B>1E60.1E61 1E9E+DF 1EA0-1EFF/ 1F00-1F07+1F08 1F08-1F0F+1F00
  1F10-1F15+1F18 1F18-1F1D+1F10 1F20-1F27+1F28 1F28-1F2F+1F20 1F30-1F37+1F38 1F38-1F3F+1F30
  1F40-1F45+1F48 1F48-1F4D+1F40 1F51+1F59 1F53+1F5B 1F55+1F5D 1F57+1F5F 1F59+1F51 1F5B+1F53
  1F5D+1F55 1F5F+1F57 1F60-1F67+1F68 1F68-1F6F+1F60 1F70-1F71+1FBA 1F72-1F75+1FC8 1F76-1F77+1FDA
  1F78-1F79+1FF8 1F7A-1F7B+1FEA 1F7C-1F7D+1FFA 1F80-1F87+1F88 1F88-1F8F+1F80 1F90-1F97+1F98
  1F98-1F9F+1F90 1FA0-1FA7+1FA8 1FA8-1FAF+1FA0 1FB0-1FB1+1FB8 1FB3+1FBC 1FB8-1FB9+1FB0
  1FBA-1FBB+1F70 1FBC+1FB3 1FBE>345.399.3B9 1FC3+1FCC 1FC8-1FCB+1F72 1FCC+1FC3 1FD0-1FD1+1FD8
  1FD3+390 1FD8-1FD9+1FD0 1FDA-1FDB+1F76 1FE0-1FE1+1FE8 1FE3+3B0 1FE5+1FEC 1FE8-1FE9+1FE0
  1FEA-1FEB+1F7A 1FEC+1FE5 1FF3+1FFC 1FF8-1FF9+1F78 1FFA-1FFB+1F7C 1FFC+1FF3 2126>3A9.3C9
  212A>4B.6B 212B>C5.E5 2132+214E 214E+2132 2160-216F+2170 2170-217F+2160 2183-2184/
  24B6-24CF+24D0 24D0-24E9+24B6 2C00-2C2F+2C30 2C30-2C5F+2C00 2C60-2C61/ 2C62+26B 2C63+1D7D
  2C64+27D 2C65+23A 2C66+23E 2C67-2C6C/ 2C6D+251 2C6E+271 2C6F+250 2C70+252 2C72-2C73/ 2C75-2C76/
  2C7E-2C7F+23F 2C80-2CE3/ 2CEB-2CEE/ 2CF2-2CF3/ 2D00-2D25+10A0 2D27+10C7 2D2D+10CD A640-A649/
  A64A>1C88.A64B A64B>1C88.A64A A64C-A66D/ A680-A69B/ A722-A72F/ A732-A76F/ A779-A77C/ A77D+1D79
  A77E-A787/ A78B-A78C/ A78D+265 A790-A793/ A794+A7C4 A796-A7A9/ A7AA+266 A7AB+25C A7AC+261
  A7AD+26C A7AE+26A A7B0+29E A7B1+287 A7B2+29D A7B3+AB53 A7B4-A7C3/ A7C4+A794 A7C5+282 A7C6+1D8E
  A7C7-A7CA/ A7CB+264 A7CC-A7DB/ A7DC+19B A7F5-A7F6/ AB53+A7B3 AB70-ABBF+13A0 FB05-FB06/
  FF21-FF3A+FF41 FF41-FF5A+FF21 10400-10427+10428 10428-1044F+10400 104B0-104D3+104D8
  104D8-104FB+104B0 10570-1057A+10597 1057C-1058A+105A3 1058C-10592+105B3 10594-10595+105BB
  10597-105A1+10570 105A3-105B1+1057C 105B3-105B9+1058C 105BB-105BC+10594 10C80-10CB2+10CC0
  10CC0-10CF2+10C80 10D50-10D65+10D70 10D70-10D85+10D50 118A0-118BF+118C0 118C0-118DF+118A0
  16E40-16E5F+16E60 16E60-16E7F+16E40 16EA0-16EB8+16EBB 16EBB-16ED3+16EA0 1E900-1E921+1E922
  1E922-1E943+1E900"

/-- The other forms of a letter. -/
def otherCases (c : Char) : List Char :=
  match caseRules.find? c with
  | none => []
  | some s =>
    let place := c.toNat - s.first
    match s.value with
    | .codes others => others.map Char.ofNat
    | .row first => [Char.ofNat (first + place)]
    | .pairs => [Char.ofNat (if place % 2 = 0 then c.toNat + 1 else c.toNat - 1)]

/-- The other form of a letter of ASCII. -/
def otherAsciiCase (c : Char) : Option Char :=
  if c.isUpper then some c.toLower else if c.isLower then some c.toUpper else none

end VaultProjection.Text
