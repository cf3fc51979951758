import VaultProjection.Text.CodeTable
/-!
General categories: what kind of sign a character is. Letters, digits, marks and what connects them
make up words.
-/

namespace VaultProjection.Text

inductive Category where
  | letter
  | mark
  /-- A digit of a decimal system. -/
  | digit
  | otherNumber
  /-- Punctuation that connects the parts of a word. -/
  | connector
  | otherPunctuation
  | symbol
  | separator
  /-- Controls, and code points without a character. -/
  | other
  deriving DecidableEq, Repr

namespace Category

def ofMark (mark : List Char) : Category :=
  match mark with
  | [_, 'L'] => .letter
  | [_, 'M'] => .mark
  | [_, 'D'] => .digit
  | [_, 'N'] => .otherNumber
  | [_, 'C'] => .connector
  | [_, 'P'] => .otherPunctuation
  | [_, 'S'] => .symbol
  | [_, 'Z'] => .separator
  | _ => .other

def isNumber (k : Category) : Bool := k == .digit || k == .otherNumber

end Category

def categories : CodeTable Category := .read .ofMark
  "20:Z 21-23:P 24:S 25-2A:P 2B:S 2C-2F:P 30-39:D 3A-3B:P 3C-3E:S 3F-40:P 41-5A:L 5B-5D:P 5E:S 5F:C
  60:S 61-7A:L 7B:P 7C:S 7D:P 7E:S A0:Z A1:P A2-A6:S A7:P A8-A9:S AA:L AB:P AC:S AE-B1:S B2-B3:N
  B4:S B5:L B6-B7:P B8:S B9:N BA:L BB:P BC-BE:N BF:P C0-D6:L D7:S D8-F6:L F7:S F8-2C1:L 2C2-2C5:S
  2C6-2D1:L 2D2-2DF:S 2E0-2E4:L 2E5-2EB:S 2EC:L 2ED:S 2EE:L 2EF-2FF:S 300-36F:M 370-374:L 375:S
  376-377:L 37A-37D:L 37E:P 37F:L 384-385:S 386:L 387:P 388-38A:L 38C:L 38E-3A1:L 3A3-3F5:L 3F6:S
  3F7-481:L 482:S 483-489:M 48A-52F:L 531-556:L 559:L 55A-55F:P 560-588:L 589-58A:P 58D-58F:S
  591-5BD:M 5BE:P 5BF:M 5C0:P 5C1-5C2:M 5C3:P 5C4-5C5:M 5C6:P 5C7:M 5D0-5EA:L 5EF-5F2:L 5F3-5F4:P
  606-608:S 609-60A:P 60B:S 60C-60D:P 60E-60F:S 610-61A:M 61B:P 61D-61F:P 620-64A:L 64B-65F:M
  660-669:D 66A-66D:P 66E-66F:L 670:M 671-6D3:L 6D4:P 6D5:L 6D6-6DC:M 6DE:S 6DF-6E4:M 6E5-6E6:L
  6E7-6E8:M 6E9:S 6EA-6ED:M 6EE-6EF:L 6F0-6F9:D 6FA-6FC:L 6FD-6FE:S 6FF:L 700-70D:P 710:L 711:M
  712-72F:L 730-74A:M 74D-7A5:L 7A6-7B0:M 7B1:L 7C0-7C9:D 7CA-7EA:L 7EB-7F3:M 7F4-7F5:L 7F6:S
  7F7-7F9:P 7FA:L 7FD:M 7FE-7FF:S 800-815:L 816-819:M 81A:L 81B-823:M 824:L 825-827:M 828:L
  829-82D:M 830-83E:P 840-858:L 859-85B:M 85E:P 860-86A:L 870-887:L 888:S 889-88F:L 897-89F:M
  8A0-8C9:L 8CA-8E1:M 8E3-903:M 904-939:L 93A-93C:M 93D:L 93E-94F:M 950:L 951-957:M 958-961:L
  962-963:M 964-965:P 966-96F:D 970:P 971-980:L 981-983:M 985-98C:L 98F-990:L 993-9A8:L 9AA-9B0:L
  9B2:L 9B6-9B9:L 9BC:M 9BD:L 9BE-9C4:M 9C7-9C8:M 9CB-9CD:M 9CE:L 9D7:M 9DC-9DD:L 9DF-9E1:L
  9E2-9E3:M 9E6-9EF:D 9F0-9F1:L 9F2-9F3:S 9F4-9F9:N 9FA-9FB:S 9FC:L 9FD:P 9FE:M A01-A03:M
  A05-A0A:L A0F-A10:L A13-A28:L A2A-A30:L A32-A33:L A35-A36:L A38-A39:L A3C:M A3E-A42:M A47-A48:M
  A4B-A4D:M A51:M A59-A5C:L A5E:L A66-A6F:D A70-A71:M A72-A74:L A75:M A76:P A81-A83:M A85-A8D:L
  A8F-A91:L A93-AA8:L AAA-AB0:L AB2-AB3:L AB5-AB9:L ABC:M ABD:L ABE-AC5:M AC7-AC9:M ACB-ACD:M
  AD0:L AE0-AE1:L AE2-AE3:M AE6-AEF:D AF0:P AF1:S AF9:L AFA-AFF:M B01-B03:M B05-B0C:L B0F-B10:L
  B13-B28:L B2A-B30:L B32-B33:L B35-B39:L B3C:M B3D:L B3E-B44:M B47-B48:M B4B-B4D:M B55-B57:M
  B5C-B5D:L B5F-B61:L B62-B63:M B66-B6F:D B70:S B71:L B72-B77:N B82:M B83:L B85-B8A:L B8E-B90:L
  B92-B95:L B99-B9A:L B9C:L B9E-B9F:L BA3-BA4:L BA8-BAA:L BAE-BB9:L BBE-BC2:M BC6-BC8:M BCA-BCD:M
  BD0:L BD7:M BE6-BEF:D BF0-BF2:N BF3-BFA:S C00-C04:M C05-C0C:L C0E-C10:L C12-C28:L C2A-C39:L
  C3C:M C3D:L C3E-C44:M C46-C48:M C4A-C4D:M C55-C56:M C58-C5A:L C5C-C5D:L C60-C61:L C62-C63:M
  C66-C6F:D C77:P C78-C7E:N C7F:S C80:L C81-C83:M C84:P C85-C8C:L C8E-C90:L C92-CA8:L CAA-CB3:L
  CB5-CB9:L CBC:M CBD:L CBE-CC4:M CC6-CC8:M CCA-CCD:M CD5-CD6:M CDC-CDE:L CE0-CE1:L CE2-CE3:M
  CE6-CEF:D CF1-CF2:L CF3:M D00-D03:M D04-D0C:L D0E-D10:L D12-D3A:L D3B-D3C:M D3D:L D3E-D44:M
  D46-D48:M D4A-D4D:M D4E:L D4F:S D54-D56:L D57:M D58-D5E:N D5F-D61:L D62-D63:M D66-D6F:D
  D70-D78:N D79:S D7A-D7F:L D81-D83:M D85-D96:L D9A-DB1:L DB3-DBB:L DBD:L DC0-DC6:L DCA:M
  DCF-DD4:M DD6:M DD8-DDF:M DE6-DEF:D DF2-DF3:M DF4:P E01-E30:L E31:M E32-E33:L E34-E3A:M E3F:S
  E40-E46:L E47-E4E:M E4F:P E50-E59:D E5A-E5B:P E81-E82:L E84:L E86-E8A:L E8C-EA3:L EA5:L
  EA7-EB0:L EB1:M EB2-EB3:L EB4-EBC:M EBD:L EC0-EC4:L EC6:L EC8-ECE:M ED0-ED9:D EDC-EDF:L F00:L
  F01-F03:S F04-F12:P F13:S F14:P F15-F17:S F18-F19:M F1A-F1F:S F20-F29:D F2A-F33:N F34:S F35:M
  F36:S F37:M F38:S F39:M F3A-F3D:P F3E-F3F:M F40-F47:L F49-F6C:L F71-F84:M F85:P F86-F87:M
  F88-F8C:L F8D-F97:M F99-FBC:M FBE-FC5:S FC6:M FC7-FCC:S FCE-FCF:S FD0-FD4:P FD5-FD8:S FD9-FDA:P
  1000-102A:L 102B-103E:M 103F:L 1040-1049:D 104A-104F:P 1050-1055:L 1056-1059:M 105A-105D:L
  105E-1060:M 1061:L 1062-1064:M 1065-1066:L 1067-106D:M 106E-1070:L 1071-1074:M 1075-1081:L
  1082-108D:M 108E:L 108F:M 1090-1099:D 109A-109D:M 109E-109F:S 10A0-10C5:L 10C7:L 10CD:L
  10D0-10FA:L 10FB:P 10FC-1248:L 124A-124D:L 1250-1256:L 1258:L 125A-125D:L 1260-1288:L
  128A-128D:L 1290-12B0:L 12B2-12B5:L 12B8-12BE:L 12C0:L 12C2-12C5:L 12C8-12D6:L 12D8-1310:L
  1312-1315:L 1318-135A:L 135D-135F:M 1360-1368:P 1369-137C:N 1380-138F:L 1390-1399:S 13A0-13F5:L
  13F8-13FD:L 1400:P 1401-166C:L 166D:S 166E:P 166F-167F:L 1680:Z 1681-169A:L 169B-169C:P
  16A0-16EA:L 16EB-16ED:P 16EE-16F0:N 16F1-16F8:L 1700-1711:L 1712-1715:M 171F-1731:L 1732-1734:M
  1735-1736:P 1740-1751:L 1752-1753:M 1760-176C:L 176E-1770:L 1772-1773:M 1780-17B3:L 17B4-17D3:M
  17D4-17D6:P 17D7:L 17D8-17DA:P 17DB:S 17DC:L 17DD:M 17E0-17E9:D 17F0-17F9:N 1800-180A:P
  180B-180D:M 180F:M 1810-1819:D 1820-1878:L 1880-1884:L 1885-1886:M 1887-18A8:L 18A9:M 18AA:L
  18B0-18F5:L 1900-191E:L 1920-192B:M 1930-193B:M 1940:S 1944-1945:P 1946-194F:D 1950-196D:L
  1970-1974:L 1980-19AB:L 19B0-19C9:L 19D0-19D9:D 19DA:N 19DE-19FF:S 1A00-1A16:L 1A17-1A1B:M
  1A1E-1A1F:P 1A20-1A54:L 1A55-1A5E:M 1A60-1A7C:M 1A7F:M 1A80-1A89:D 1A90-1A99:D 1AA0-1AA6:P
  1AA7:L 1AA8-1AAD:P 1AB0-1ADD:M 1AE0-1AEB:M 1B00-1B04:M 1B05-1B33:L 1B34-1B44:M 1B45-1B4C:L
  1B4E-1B4F:P 1B50-1B59:D 1B5A-1B60:P 1B61-1B6A:S 1B6B-1B73:M 1B74-1B7C:S 1B7D-1B7F:P 1B80-1B82:M
  1B83-1BA0:L 1BA1-1BAD:M 1BAE-1BAF:L 1BB0-1BB9:D 1BBA-1BE5:L 1BE6-1BF3:M 1BFC-1BFF:P 1C00-1C23:L
  1C24-1C37:M 1C3B-1C3F:P 1C40-1C49:D 1C4D-1C4F:L 1C50-1C59:D 1C5A-1C7D:L 1C7E-1C7F:P 1C80-1C8A:L
  1C90-1CBA:L 1CBD-1CBF:L 1CC0-1CC7:P 1CD0-1CD2:M 1CD3:P 1CD4-1CE8:M 1CE9-1CEC:L 1CED:M
  1CEE-1CF3:L 1CF4:M 1CF5-1CF6:L 1CF7-1CF9:M 1CFA:L 1D00-1DBF:L 1DC0-1DFF:M 1E00-1F15:L
  1F18-1F1D:L 1F20-1F45:L 1F48-1F4D:L 1F50-1F57:L 1F59:L 1F5B:L 1F5D:L 1F5F-1F7D:L 1F80-1FB4:L
  1FB6-1FBC:L 1FBD:S 1FBE:L 1FBF-1FC1:S 1FC2-1FC4:L 1FC6-1FCC:L 1FCD-1FCF:S 1FD0-1FD3:L
  1FD6-1FDB:L 1FDD-1FDF:S 1FE0-1FEC:L 1FED-1FEF:S 1FF2-1FF4:L 1FF6-1FFC:L 1FFD-1FFE:S 2000-200A:Z
  2010-2027:P 2028-2029:Z 202F:Z 2030-203E:P 203F-2040:C 2041-2043:P 2044:S 2045-2051:P 2052:S
  2053:P 2054:C 2055-205E:P 205F:Z 2070:N 2071:L 2074-2079:N 207A-207C:S 207D-207E:P 207F:L
  2080-2089:N 208A-208C:S 208D-208E:P 2090-209C:L 20A0-20C1:S 20D0-20F0:M 2100-2101:S 2102:L
  2103-2106:S 2107:L 2108-2109:S 210A-2113:L 2114:S 2115:L 2116-2118:S 2119-211D:L 211E-2123:S
  2124:L 2125:S 2126:L 2127:S 2128:L 2129:S 212A-212D:L 212E:S 212F-2139:L 213A-213B:S 213C-213F:L
  2140-2144:S 2145-2149:L 214A-214D:S 214E:L 214F:S 2150-2182:N 2183-2184:L 2185-2189:N
  218A-218B:S 2190-2307:S 2308-230B:P 230C-2328:S 2329-232A:P 232B-2429:S 2440-244A:S 2460-249B:N
  249C-24E9:S 24EA-24FF:N 2500-2767:S 2768-2775:P 2776-2793:N 2794-27C4:S 27C5-27C6:P 27C7-27E5:S
  27E6-27EF:P 27F0-2982:S 2983-2998:P 2999-29D7:S 29D8-29DB:P 29DC-29FB:S 29FC-29FD:P 29FE-2B73:S
  2B76-2BFF:S 2C00-2CE4:L 2CE5-2CEA:S 2CEB-2CEE:L 2CEF-2CF1:M 2CF2-2CF3:L 2CF9-2CFC:P 2CFD:N
  2CFE-2CFF:P 2D00-2D25:L 2D27:L 2D2D:L 2D30-2D67:L 2D6F:L 2D70:P 2D7F:M 2D80-2D96:L 2DA0-2DA6:L
  2DA8-2DAE:L 2DB0-2DB6:L 2DB8-2DBE:L 2DC0-2DC6:L 2DC8-2DCE:L 2DD0-2DD6:L 2DD8-2DDE:L 2DE0-2DFF:M
  2E00-2E2E:P 2E2F:L 2E30-2E4F:P 2E50-2E51:S 2E52-2E5D:P 2E80-2E99:S 2E9B-2EF3:S 2F00-2FD5:S
  2FF0-2FFF:S 3000:Z 3001-3003:P 3004:S 3005-3006:L 3007:N 3008-3011:P 3012-3013:S 3014-301F:P
  3020:S 3021-3029:N 302A-302F:M 3030:P 3031-3035:L 3036-3037:S 3038-303A:N 303B-303C:L 303D:P
  303E-303F:S 3041-3096:L 3099-309A:M 309B-309C:S 309D-309F:L 30A0:P 30A1-30FA:L 30FB:P
  30FC-30FF:L 3105-312F:L 3131-318E:L 3190-3191:S 3192-3195:N 3196-319F:S 31A0-31BF:L 31C0-31E5:S
  31EF:S 31F0-31FF:L 3200-321E:S 3220-3229:N 322A-3247:S 3248-324F:N 3250:S 3251-325F:N
  3260-327F:S 3280-3289:N 328A-32B0:S 32B1-32BF:N 32C0-33FF:S 3400-4DBF:L 4DC0-4DFF:S 4E00-A48C:L
  A490-A4C6:S A4D0-A4FD:L A4FE-A4FF:P A500-A60C:L A60D-A60F:P A610-A61F:L A620-A629:D A62A-A62B:L
  A640-A66E:L A66F-A672:M A673:P A674-A67D:M A67E:P A67F-A69D:L A69E-A69F:M A6A0-A6E5:L
  A6E6-A6EF:N A6F0-A6F1:M A6F2-A6F7:P A700-A716:S A717-A71F:L A720-A721:S A722-A788:L A789-A78A:S
  A78B-A7DC:L A7F1-A801:L A802:M A803-A805:L A806:M A807-A80A:L A80B:M A80C-A822:L A823-A827:M
  A828-A82B:S A82C:M A830-A835:N A836-A839:S A840-A873:L A874-A877:P A880-A881:M A882-A8B3:L
  A8B4-A8C5:M A8CE-A8CF:P A8D0-A8D9:D A8E0-A8F1:M A8F2-A8F7:L A8F8-A8FA:P A8FB:L A8FC:P
  A8FD-A8FE:L A8FF:M A900-A909:D A90A-A925:L A926-A92D:M A92E-A92F:P A930-A946:L A947-A953:M
  A95F:P A960-A97C:L A980-A983:M A984-A9B2:L A9B3-A9C0:M A9C1-A9CD:P A9CF:L A9D0-A9D9:D
  A9DE-A9DF:P A9E0-A9E4:L A9E5:M A9E6-A9EF:L A9F0-A9F9:D A9FA-A9FE:L AA00-AA28:L AA29-AA36:M
  AA40-AA42:L AA43:M AA44-AA4B:L AA4C-AA4D:M AA50-AA59:D AA5C-AA5F:P AA60-AA76:L AA77-AA79:S
  AA7A:L AA7B-AA7D:M AA7E-AAAF:L AAB0:M AAB1:L AAB2-AAB4:M AAB5-AAB6:L AAB7-AAB8:M AAB9-AABD:L
  AABE-AABF:M AAC0:L AAC1:M AAC2:L AADB-AADD:L AADE-AADF:P AAE0-AAEA:L AAEB-AAEF:M AAF0-AAF1:P
  AAF2-AAF4:L AAF5-AAF6:M AB01-AB06:L AB09-AB0E:L AB11-AB16:L AB20-AB26:L AB28-AB2E:L AB30-AB5A:L
  AB5B:S AB5C-AB69:L AB6A-AB6B:S AB70-ABE2:L ABE3-ABEA:M ABEB:P ABEC-ABED:M ABF0-ABF9:D
  AC00-D7A3:L D7B0-D7C6:L D7CB-D7FB:L F900-FA6D:L FA70-FAD9:L FB00-FB06:L FB13-FB17:L FB1D:L
  FB1E:M FB1F-FB28:L FB29:S FB2A-FB36:L FB38-FB3C:L FB3E:L FB40-FB41:L FB43-FB44:L FB46-FBB1:L
  FBB2-FBD2:S FBD3-FD3D:L FD3E-FD3F:P FD40-FD4F:S FD50-FD8F:L FD90-FD91:S FD92-FDC7:L FDC8-FDCF:S
  FDF0-FDFB:L FDFC-FDFF:S FE00-FE0F:M FE10-FE19:P FE20-FE2F:M FE30-FE32:P FE33-FE34:C FE35-FE4C:P
  FE4D-FE4F:C FE50-FE52:P FE54-FE61:P FE62:S FE63:P FE64-FE66:S FE68:P FE69:S FE6A-FE6B:P
  FE70-FE74:L FE76-FEFC:L FF01-FF03:P FF04:S FF05-FF0A:P FF0B:S FF0C-FF0F:P FF10-FF19:D
  FF1A-FF1B:P FF1C-FF1E:S FF1F-FF20:P FF21-FF3A:L FF3B-FF3D:P FF3E:S FF3F:C FF40:S FF41-FF5A:L
  FF5B:P FF5C:S FF5D:P FF5E:S FF5F-FF65:P FF66-FFBE:L FFC2-FFC7:L FFCA-FFCF:L FFD2-FFD7:L
  FFDA-FFDC:L FFE0-FFE6:S FFE8-FFEE:S FFFC-FFFD:S 10000-1000B:L 1000D-10026:L 10028-1003A:L
  1003C-1003D:L 1003F-1004D:L 10050-1005D:L 10080-100FA:L 10100-10102:P 10107-10133:N
  10137-1013F:S 10140-10178:N 10179-10189:S 1018A-1018B:N 1018C-1018E:S 10190-1019C:S 101A0:S
  101D0-101FC:S 101FD:M 10280-1029C:L 102A0-102D0:L 102E0:M 102E1-102FB:N 10300-1031F:L
  10320-10323:N 1032D-10340:L 10341:N 10342-10349:L 1034A:N 10350-10375:L 10376-1037A:M
  10380-1039D:L 1039F:P 103A0-103C3:L 103C8-103CF:L 103D0:P 103D1-103D5:N 10400-1049D:L
  104A0-104A9:D 104B0-104D3:L 104D8-104FB:L 10500-10527:L 10530-10563:L 1056F:P 10570-1057A:L
  1057C-1058A:L 1058C-10592:L 10594-10595:L 10597-105A1:L 105A3-105B1:L 105B3-105B9:L
  105BB-105BC:L 105C0-105F3:L 10600-10736:L 10740-10755:L 10760-10767:L 10780-10785:L
  10787-107B0:L 107B2-107BA:L 10800-10805:L 10808:L 1080A-10835:L 10837-10838:L 1083C:L
  1083F-10855:L 10857:P 10858-1085F:N 10860-10876:L 10877-10878:S 10879-1087F:N 10880-1089E:L
  108A7-108AF:N 108E0-108F2:L 108F4-108F5:L 108FB-108FF:N 10900-10915:L 10916-1091B:N 1091F:P
  10920-10939:L 1093F:P 10940-10959:L 10980-109B7:L 109BC-109BD:N 109BE-109BF:L 109C0-109CF:N
  109D2-109FF:N 10A00:L 10A01-10A03:M 10A05-10A06:M 10A0C-10A0F:M 10A10-10A13:L 10A15-10A17:L
  10A19-10A35:L 10A38-10A3A:M 10A3F:M 10A40-10A48:N 10A50-10A58:P 10A60-10A7C:L 10A7D-10A7E:N
  10A7F:P 10A80-10A9C:L 10A9D-10A9F:N 10AC0-10AC7:L 10AC8:S 10AC9-10AE4:L 10AE5-10AE6:M
  10AEB-10AEF:N 10AF0-10AF6:P 10B00-10B35:L 10B39-10B3F:P 10B40-10B55:L 10B58-10B5F:N
  10B60-10B72:L 10B78-10B7F:N 10B80-10B91:L 10B99-10B9C:P 10BA9-10BAF:N 10C00-10C48:L
  10C80-10CB2:L 10CC0-10CF2:L 10CFA-10CFF:N 10D00-10D23:L 10D24-10D27:M 10D30-10D39:D
  10D40-10D49:D 10D4A-10D65:L 10D69-10D6D:M 10D6E:P 10D6F-10D85:L 10D8E-10D8F:S 10E60-10E7E:N
  10E80-10EA9:L 10EAB-10EAC:M 10EAD:P 10EB0-10EB1:L 10EC2-10EC7:L 10ED0:P 10ED1-10ED8:S
  10EFA-10EFF:M 10F00-10F1C:L 10F1D-10F26:N 10F27:L 10F30-10F45:L 10F46-10F50:M 10F51-10F54:N
  10F55-10F59:P 10F70-10F81:L 10F82-10F85:M 10F86-10F89:P 10FB0-10FC4:L 10FC5-10FCB:N
  10FE0-10FF6:L 11000-11002:M 11003-11037:L 11038-11046:M 11047-1104D:P 11052-11065:N
  11066-1106F:D 11070:M 11071-11072:L 11073-11074:M 11075:L 1107F-11082:M 11083-110AF:L
  110B0-110BA:M 110BB-110BC:P 110BE-110C1:P 110C2:M 110D0-110E8:L 110F0-110F9:D 11100-11102:M
  11103-11126:L 11127-11134:M 11136-1113F:D 11140-11143:P 11144:L 11145-11146:M 11147:L
  11150-11172:L 11173:M 11174-11175:P 11176:L 11180-11182:M 11183-111B2:L 111B3-111C0:M
  111C1-111C4:L 111C5-111C8:P 111C9-111CC:M 111CD:P 111CE-111CF:M 111D0-111D9:D 111DA:L 111DB:P
  111DC:L 111DD-111DF:P 111E1-111F4:N 11200-11211:L 11213-1122B:L 1122C-11237:M 11238-1123D:P
  1123E:M 1123F-11240:L 11241:M 11280-11286:L 11288:L 1128A-1128D:L 1128F-1129D:L 1129F-112A8:L
  112A9:P 112B0-112DE:L 112DF-112EA:M 112F0-112F9:D 11300-11303:M 11305-1130C:L 1130F-11310:L
  11313-11328:L 1132A-11330:L 11332-11333:L 11335-11339:L 1133B-1133C:M 1133D:L 1133E-11344:M
  11347-11348:M 1134B-1134D:M 11350:L 11357:M 1135D-11361:L 11362-11363:M 11366-1136C:M
  11370-11374:M 11380-11389:L 1138B:L 1138E:L 11390-113B5:L 113B7:L 113B8-113C0:M 113C2:M 113C5:M
  113C7-113CA:M 113CC-113D0:M 113D1:L 113D2:M 113D3:L 113D4-113D5:P 113D7-113D8:P 113E1-113E2:M
  11400-11434:L 11435-11446:M 11447-1144A:L 1144B-1144F:P 11450-11459:D 1145A-1145B:P 1145D:P
  1145E:M 1145F-11461:L 11480-114AF:L 114B0-114C3:M 114C4-114C5:L 114C6:P 114C7:L 114D0-114D9:D
  11580-115AE:L 115AF-115B5:M 115B8-115C0:M 115C1-115D7:P 115D8-115DB:L 115DC-115DD:M
  11600-1162F:L 11630-11640:M 11641-11643:P 11644:L 11650-11659:D 11660-1166C:P 11680-116AA:L
  116AB-116B7:M 116B8:L 116B9:P 116C0-116C9:D 116D0-116E3:D 11700-1171A:L 1171D-1172B:M
  11730-11739:D 1173A-1173B:N 1173C-1173E:P 1173F:S 11740-11746:L 11800-1182B:L 1182C-1183A:M
  1183B:P 118A0-118DF:L 118E0-118E9:D 118EA-118F2:N 118FF-11906:L 11909:L 1190C-11913:L
  11915-11916:L 11918-1192F:L 11930-11935:M 11937-11938:M 1193B-1193E:M 1193F:L 11940:M 11941:L
  11942-11943:M 11944-11946:P 11950-11959:D 119A0-119A7:L 119AA-119D0:L 119D1-119D7:M
  119DA-119E0:M 119E1:L 119E2:P 119E3:L 119E4:M 11A00:L 11A01-11A0A:M 11A0B-11A32:L 11A33-11A39:M
  11A3A:L 11A3B-11A3E:M 11A3F-11A46:P 11A47:M 11A50:L 11A51-11A5B:M 11A5C-11A89:L 11A8A-11A99:M
  11A9A-11A9C:P 11A9D:L 11A9E-11AA2:P 11AB0-11AF8:L 11B00-11B09:P 11B60-11B67:M 11BC0-11BE0:L
  11BE1:P 11BF0-11BF9:D 11C00-11C08:L 11C0A-11C2E:L 11C2F-11C36:M 11C38-11C3F:M 11C40:L
  11C41-11C45:P 11C50-11C59:D 11C5A-11C6C:N 11C70-11C71:P 11C72-11C8F:L 11C92-11CA7:M
  11CA9-11CB6:M 11D00-11D06:L 11D08-11D09:L 11D0B-11D30:L 11D31-11D36:M 11D3A:M 11D3C-11D3D:M
  11D3F-11D45:M 11D46:L 11D47:M 11D50-11D59:D 11D60-11D65:L 11D67-11D68:L 11D6A-11D89:L
  11D8A-11D8E:M 11D90-11D91:M 11D93-11D97:M 11D98:L 11DA0-11DA9:D 11DB0-11DDB:L 11DE0-11DE9:D
  11EE0-11EF2:L 11EF3-11EF6:M 11EF7-11EF8:P 11F00-11F01:M 11F02:L 11F03:M 11F04-11F10:L
  11F12-11F33:L 11F34-11F3A:M 11F3E-11F42:M 11F43-11F4F:P 11F50-11F59:D 11F5A:M 11FB0:L
  11FC0-11FD4:N 11FD5-11FF1:S 11FFF:P 12000-12399:L 12400-1246E:N 12470-12474:P 12480-12543:L
  12F90-12FF0:L 12FF1-12FF2:P 13000-1342F:L 13440:M 13441-13446:L 13447-13455:M 13460-143FA:L
  14400-14646:L 16100-1611D:L 1611E-1612F:M 16130-16139:D 16800-16A38:L 16A40-16A5E:L
  16A60-16A69:D 16A6E-16A6F:P 16A70-16ABE:L 16AC0-16AC9:D 16AD0-16AED:L 16AF0-16AF4:M 16AF5:P
  16B00-16B2F:L 16B30-16B36:M 16B37-16B3B:P 16B3C-16B3F:S 16B40-16B43:L 16B44:P 16B45:S
  16B50-16B59:D 16B5B-16B61:N 16B63-16B77:L 16B7D-16B8F:L 16D40-16D6C:L 16D6D-16D6F:P
  16D70-16D79:D 16E40-16E7F:L 16E80-16E96:N 16E97-16E9A:P 16EA0-16EB8:L 16EBB-16ED3:L
  16F00-16F4A:L 16F4F:M 16F50:L 16F51-16F87:M 16F8F-16F92:M 16F93-16F9F:L 16FE0-16FE1:L 16FE2:P
  16FE3:L 16FE4:M 16FF0-16FF1:M 16FF2-16FF3:L 16FF4-16FF6:N 17000-18CD5:L 18CFF-18D1E:L
  18D80-18DF2:L 1AFF0-1AFF3:L 1AFF5-1AFFB:L 1AFFD-1AFFE:L 1B000-1B122:L 1B132:L 1B150-1B152:L
  1B155:L 1B164-1B167:L 1B170-1B2FB:L 1BC00-1BC6A:L 1BC70-1BC7C:L 1BC80-1BC88:L 1BC90-1BC99:L
  1BC9C:S 1BC9D-1BC9E:M 1BC9F:P 1CC00-1CCEF:S 1CCF0-1CCF9:D 1CCFA-1CCFC:S 1CD00-1CEB3:S
  1CEBA-1CED0:S 1CEE0-1CEF0:S 1CF00-1CF2D:M 1CF30-1CF46:M 1CF50-1CFC3:S 1D000-1D0F5:S
  1D100-1D126:S 1D129-1D164:S 1D165-1D169:M 1D16A-1D16C:S 1D16D-1D172:M 1D17B-1D182:M
  1D183-1D184:S 1D185-1D18B:M 1D18C-1D1A9:S 1D1AA-1D1AD:M 1D1AE-1D1EA:S 1D200-1D241:S
  1D242-1D244:M 1D245:S 1D2C0-1D2D3:N 1D2E0-1D2F3:N 1D300-1D356:S 1D360-1D378:N 1D400-1D454:L
  1D456-1D49C:L 1D49E-1D49F:L 1D4A2:L 1D4A5-1D4A6:L 1D4A9-1D4AC:L 1D4AE-1D4B9:L 1D4BB:L
  1D4BD-1D4C3:L 1D4C5-1D505:L 1D507-1D50A:L 1D50D-1D514:L 1D516-1D51C:L 1D51E-1D539:L
  1D53B-1D53E:L 1D540-1D544:L 1D546:L 1D54A-1D550:L 1D552-1D6A5:L 1D6A8-1D6C0:L 1D6C1:S
  1D6C2-1D6DA:L 1D6DB:S 1D6DC-1D6FA:L 1D6FB:S 1D6FC-1D714:L 1D715:S 1D716-1D734:L 1D735:S
  1D736-1D74E:L 1D74F:S 1D750-1D76E:L 1D76F:S 1D770-1D788:L 1D789:S 1D78A-1D7A8:L 1D7A9:S
  1D7AA-1D7C2:L 1D7C3:S 1D7C4-1D7CB:L 1D7CE-1D7FF:D 1D800-1D9FF:S 1DA00-1DA36:M 1DA37-1DA3A:S
  1DA3B-1DA6C:M 1DA6D-1DA74:S 1DA75:M 1DA76-1DA83:S 1DA84:M 1DA85-1DA86:S 1DA87-1DA8B:P
  1DA9B-1DA9F:M 1DAA1-1DAAF:M 1DF00-1DF1E:L 1DF25-1DF2A:L 1E000-1E006:M 1E008-1E018:M
  1E01B-1E021:M 1E023-1E024:M 1E026-1E02A:M 1E030-1E06D:L 1E08F:M 1E100-1E12C:L 1E130-1E136:M
  1E137-1E13D:L 1E140-1E149:D 1E14E:L 1E14F:S 1E290-1E2AD:L 1E2AE:M 1E2C0-1E2EB:L 1E2EC-1E2EF:M
  1E2F0-1E2F9:D 1E2FF:S 1E4D0-1E4EB:L 1E4EC-1E4EF:M 1E4F0-1E4F9:D 1E5D0-1E5ED:L 1E5EE-1E5EF:M
  1E5F0:L 1E5F1-1E5FA:D 1E5FF:P 1E6C0-1E6DE:L 1E6E0-1E6E2:L 1E6E3:M 1E6E4-1E6E5:L 1E6E6:M
  1E6E7-1E6ED:L 1E6EE-1E6EF:M 1E6F0-1E6F4:L 1E6F5:M 1E6FE-1E6FF:L 1E7E0-1E7E6:L 1E7E8-1E7EB:L
  1E7ED-1E7EE:L 1E7F0-1E7FE:L 1E800-1E8C4:L 1E8C7-1E8CF:N 1E8D0-1E8D6:M 1E900-1E943:L
  1E944-1E94A:M 1E94B:L 1E950-1E959:D 1E95E-1E95F:P 1EC71-1ECAB:N 1ECAC:S 1ECAD-1ECAF:N 1ECB0:S
  1ECB1-1ECB4:N 1ED01-1ED2D:N 1ED2E:S 1ED2F-1ED3D:N 1EE00-1EE03:L 1EE05-1EE1F:L 1EE21-1EE22:L
  1EE24:L 1EE27:L 1EE29-1EE32:L 1EE34-1EE37:L 1EE39:L 1EE3B:L 1EE42:L 1EE47:L 1EE49:L 1EE4B:L
  1EE4D-1EE4F:L 1EE51-1EE52:L 1EE54:L 1EE57:L 1EE59:L 1EE5B:L 1EE5D:L 1EE5F:L 1EE61-1EE62:L
  1EE64:L 1EE67-1EE6A:L 1EE6C-1EE72:L 1EE74-1EE77:L 1EE79-1EE7C:L 1EE7E:L 1EE80-1EE89:L
  1EE8B-1EE9B:L 1EEA1-1EEA3:L 1EEA5-1EEA9:L 1EEAB-1EEBB:L 1EEF0-1EEF1:S 1F000-1F02B:S
  1F030-1F093:S 1F0A0-1F0AE:S 1F0B1-1F0BF:S 1F0C1-1F0CF:S 1F0D1-1F0F5:S 1F100-1F10C:N
  1F10D-1F1AD:S 1F1E6-1F202:S 1F210-1F23B:S 1F240-1F248:S 1F250-1F251:S 1F260-1F265:S
  1F300-1F6D8:S 1F6DC-1F6EC:S 1F6F0-1F6FC:S 1F700-1F7D9:S 1F7E0-1F7EB:S 1F7F0:S 1F800-1F80B:S
  1F810-1F847:S 1F850-1F859:S 1F860-1F887:S 1F890-1F8AD:S 1F8B0-1F8BB:S 1F8C0-1F8C1:S
  1F8D0-1F8D8:S 1F900-1FA57:S 1FA60-1FA6D:S 1FA70-1FA7C:S 1FA80-1FA8A:S 1FA8E-1FAC6:S 1FAC8:S
  1FACD-1FADC:S 1FADF-1FAEA:S 1FAEF-1FAF8:S 1FB00-1FB92:S 1FB94-1FBEF:S 1FBF0-1FBF9:D 1FBFA:S
  20000-2A6DF:L 2A700-2B81D:L 2B820-2CEAD:L 2CEB0-2EBE0:L 2EBF0-2EE5D:L 2F800-2FA1D:L
  30000-3134A:L 31350-33479:L E0100-E01EF:M"

def category (c : Char) : Category := (categories.value? c).getD .other

/-- A mark belongs to the character in front of it. -/
def isMark (c : Char) : Bool := category c == .mark

/-- Numbers, marks and symbols that are used like letters; letters between them are in the spans
too. -/
def letterLike : CodeTable Unit := .read (fun _ => ())
  "345 363-36F 5B0-5BD 5BF 5C1-5C2 5C4-5C5 5C7 610-61A 64B-657 659-65F 670 6D6-6DC 6E1-6E8 6ED
  711-73F 7A6-7B0 816-817 81B-82C 897 8D4-8DF 8E3-8E9 8F0-93B 93E-94C 94E-94F 955-963 981-983
  9BE-9C4 9C7-9C8 9CB-9CC 9D7 9E2-9E3 A01-A03 A3E-A42 A47-A48 A4B-A4C A51 A70-A75 A81-A83 ABE-AC5
  AC7-AC9 ACB-ACC AE2-AE3 AFA-AFC B01-B03 B3E-B44 B47-B48 B4B-B4C B56-B57 B62-B63 B82 BBE-BC2
  BC6-BC8 BCA-BCC BD7 C00-C04 C3E-C44 C46-C48 C4A-C4C C55-C56 C62-C63 C81-C83 CBE-CC4 CC6-CC8
  CCA-CCC CD5-CD6 CE2-CE3 CF3 D00-D03 D3E-D44 D46-D48 D4A-D4C D57 D62-D63 D81-D83 DCF-DD4 DD6
  DD8-DDF DF2-DF3 E31-E3A E4D EB1-EB9 EBB-EBC ECD F71-F83 F8D-F97 F99-FBC 102B-1036 1038 103B-103E
  1056-108F 109A-109D 16EE-16F0 1712-1713 1732-1733 1752-1753 1772-1773 17B6-17C8 1885-18A9
  1920-192B 1930-1938 1A17-1A1B 1A55-1A5E 1A61-1A74 1ABF-1AC0 1ACC-1ACE 1B00-1B04 1B35-1B43
  1B80-1BA9 1BAC-1BAD 1BE7-1BF1 1C24-1C36 1DD3-1DF4 2160-2188 24B6-24E9 2DE0-2DFF 3007 3021-3029
  3038-303A A674-A67B A69E-A6EF A802 A80B-A827 A880-A8C3 A8C5 A8FF A926-A92A A947-A952 A980-A983
  A9B4-A9BF A9E5 AA29-AA36 AA43-AA4D AA7B-AABE AAEB-AAEF AAF5 ABE3-ABEA FB1E 10140-10174
  10341-1034A 10376-1037A 103D1-103D5 10A01-10A03 10A05-10A06 10A0C-10A0F 10D24-10D27 10D69
  10EAB-10EAC 10EFA-10EFC 11000-11045 11073-11074 11080-110B8 110C2 11100-11132 11145-11146
  11180-111BF 111CE-111CF 1122C-11234 11237 1123E-11241 112DF-112E8 11300-11303 1133E-11344
  11347-11348 1134B-1134C 11357 11362-11363 113B8-113C0 113C2 113C5 113C7-113CA 113CC-113CD
  11435-11441 11443-11445 114B0-114C1 115AF-115B5 115B8-115BE 115DC-115DD 11630-1163E 11640
  116AB-116B5 1171D-1172A 1182C-11838 11930-11935 11937-11938 1193B-1193C 11940-11942 119D1-119D7
  119DA-119DF 119E4 11A01-11A0A 11A35-11A3E 11A51-11A97 11B60-11B67 11C2F-11C36 11C38-11C3E
  11C92-11CA7 11CA9-11CB6 11D31-11D36 11D3A 11D3C-11D3D 11D3F-11D41 11D43 11D47 11D8A-11D8E
  11D90-11D91 11D93-11D96 11EF3-11EF6 11F00-11F03 11F34-11F3A 11F3E-11F40 12400-1246E 1611E-1612E
  16F4F-16F87 16F8F-16F92 16FF0-16FF6 1BC9E 1E000-1E006 1E008-1E018 1E01B-1E021 1E023-1E024
  1E026-1E02A 1E08F 1E6E3-1E6F5 1E947 1F130-1F149 1F150-1F169 1F170-1F189"

/-- A character of an alphabet. -/
def isAlphabetic (c : Char) : Bool := category c == .letter || letterLike.contains c

/-- A character of an alphabet or a number. -/
def isAlphanumeric (c : Char) : Bool := isAlphabetic c || (category c).isNumber

/-- A character of a word: next to letters, digits and marks what connects them, and the joiners
without a width. -/
def isWordChar (c : Char) : Bool :=
  isAlphabetic c || [.mark, .digit, .connector].contains (category c) || c == '\u200C'
    || c == '\u200D'

end VaultProjection.Text
