import StoryRules.Text.Span

/-!
# Printable characters

The characters that stand for themselves in a quoted text: those assigned in Unicode 14, other
than controls, formats, surrogates, private use and separators, with the plain space.
-/

namespace StoryRules.Text

def printableSpans : Spans Unit :=
  Spans.plain
  "0020-007E 00A1-00AC 00AE-0377 037A-037F 0384-038A 038C 038E-03A1 03A3-052F 0531-0556
   0559-058A 058D-058F 0591-05C7 05D0-05EA 05EF-05F4 0606-061B 061D-06DC 06DE-070D 0710-074A
   074D-07B1 07C0-07FA 07FD-082D 0830-083E 0840-085B 085E 0860-086A 0870-088E 0898-08E1
   08E3-0983 0985-098C 098F-0990 0993-09A8 09AA-09B0 09B2 09B6-09B9 09BC-09C4 09C7-09C8
   09CB-09CE 09D7 09DC-09DD 09DF-09E3 09E6-09FE 0A01-0A03 0A05-0A0A 0A0F-0A10 0A13-0A28
   0A2A-0A30 0A32-0A33 0A35-0A36 0A38-0A39 0A3C 0A3E-0A42 0A47-0A48 0A4B-0A4D 0A51 0A59-0A5C
   0A5E 0A66-0A76 0A81-0A83 0A85-0A8D 0A8F-0A91 0A93-0AA8 0AAA-0AB0 0AB2-0AB3 0AB5-0AB9
   0ABC-0AC5 0AC7-0AC9 0ACB-0ACD 0AD0 0AE0-0AE3 0AE6-0AF1 0AF9-0AFF 0B01-0B03 0B05-0B0C
   0B0F-0B10 0B13-0B28 0B2A-0B30 0B32-0B33 0B35-0B39 0B3C-0B44 0B47-0B48 0B4B-0B4D 0B55-0B57
   0B5C-0B5D 0B5F-0B63 0B66-0B77 0B82-0B83 0B85-0B8A 0B8E-0B90 0B92-0B95 0B99-0B9A 0B9C
   0B9E-0B9F 0BA3-0BA4 0BA8-0BAA 0BAE-0BB9 0BBE-0BC2 0BC6-0BC8 0BCA-0BCD 0BD0 0BD7 0BE6-0BFA
   0C00-0C0C 0C0E-0C10 0C12-0C28 0C2A-0C39 0C3C-0C44 0C46-0C48 0C4A-0C4D 0C55-0C56 0C58-0C5A
   0C5D 0C60-0C63 0C66-0C6F 0C77-0C8C 0C8E-0C90 0C92-0CA8 0CAA-0CB3 0CB5-0CB9 0CBC-0CC4
   0CC6-0CC8 0CCA-0CCD 0CD5-0CD6 0CDD-0CDE 0CE0-0CE3 0CE6-0CEF 0CF1-0CF2 0D00-0D0C 0D0E-0D10
   0D12-0D44 0D46-0D48 0D4A-0D4F 0D54-0D63 0D66-0D7F 0D81-0D83 0D85-0D96 0D9A-0DB1 0DB3-0DBB
   0DBD 0DC0-0DC6 0DCA 0DCF-0DD4 0DD6 0DD8-0DDF 0DE6-0DEF 0DF2-0DF4 0E01-0E3A 0E3F-0E5B
   0E81-0E82 0E84 0E86-0E8A 0E8C-0EA3 0EA5 0EA7-0EBD 0EC0-0EC4 0EC6 0EC8-0ECD 0ED0-0ED9
   0EDC-0EDF 0F00-0F47 0F49-0F6C 0F71-0F97 0F99-0FBC 0FBE-0FCC 0FCE-0FDA 1000-10C5 10C7 10CD
   10D0-1248 124A-124D 1250-1256 1258 125A-125D 1260-1288 128A-128D 1290-12B0 12B2-12B5
   12B8-12BE 12C0 12C2-12C5 12C8-12D6 12D8-1310 1312-1315 1318-135A 135D-137C 1380-1399
   13A0-13F5 13F8-13FD 1400-167F 1681-169C 16A0-16F8 1700-1715 171F-1736 1740-1753 1760-176C
   176E-1770 1772-1773 1780-17DD 17E0-17E9 17F0-17F9 1800-180D 180F-1819 1820-1878 1880-18AA
   18B0-18F5 1900-191E 1920-192B 1930-193B 1940 1944-196D 1970-1974 1980-19AB 19B0-19C9
   19D0-19DA 19DE-1A1B 1A1E-1A5E 1A60-1A7C 1A7F-1A89 1A90-1A99 1AA0-1AAD 1AB0-1ACE 1B00-1B4C
   1B50-1B7E 1B80-1BF3 1BFC-1C37 1C3B-1C49 1C4D-1C88 1C90-1CBA 1CBD-1CC7 1CD0-1CFA 1D00-1F15
   1F18-1F1D 1F20-1F45 1F48-1F4D 1F50-1F57 1F59 1F5B 1F5D 1F5F-1F7D 1F80-1FB4 1FB6-1FC4
   1FC6-1FD3 1FD6-1FDB 1FDD-1FEF 1FF2-1FF4 1FF6-1FFE 2010-2027 2030-205E 2070-2071 2074-208E
   2090-209C 20A0-20C0 20D0-20F0 2100-218B 2190-2426 2440-244A 2460-2B73 2B76-2B95 2B97-2CF3
   2CF9-2D25 2D27 2D2D 2D30-2D67 2D6F-2D70 2D7F-2D96 2DA0-2DA6 2DA8-2DAE 2DB0-2DB6 2DB8-2DBE
   2DC0-2DC6 2DC8-2DCE 2DD0-2DD6 2DD8-2DDE 2DE0-2E5D 2E80-2E99 2E9B-2EF3 2F00-2FD5 2FF0-2FFB
   3001-303F 3041-3096 3099-30FF 3105-312F 3131-318E 3190-31E3 31F0-321E 3220-A48C A490-A4C6
   A4D0-A62B A640-A6F7 A700-A7CA A7D0-A7D1 A7D3 A7D5-A7D9 A7F2-A82C A830-A839 A840-A877
   A880-A8C5 A8CE-A8D9 A8E0-A953 A95F-A97C A980-A9CD A9CF-A9D9 A9DE-A9FE AA00-AA36 AA40-AA4D
   AA50-AA59 AA5C-AAC2 AADB-AAF6 AB01-AB06 AB09-AB0E AB11-AB16 AB20-AB26 AB28-AB2E AB30-AB6B
   AB70-ABED ABF0-ABF9 AC00-D7A3 D7B0-D7C6 D7CB-D7FB F900-FA6D FA70-FAD9 FB00-FB06 FB13-FB17
   FB1D-FB36 FB38-FB3C FB3E FB40-FB41 FB43-FB44 FB46-FBC2 FBD3-FD8F FD92-FDC7 FDCF FDF0-FE19
   FE20-FE52 FE54-FE66 FE68-FE6B FE70-FE74 FE76-FEFC FF01-FFBE FFC2-FFC7 FFCA-FFCF FFD2-FFD7
   FFDA-FFDC FFE0-FFE6 FFE8-FFEE FFFC-FFFD 10000-1000B 1000D-10026 10028-1003A 1003C-1003D
   1003F-1004D 10050-1005D 10080-100FA 10100-10102 10107-10133 10137-1018E 10190-1019C 101A0
   101D0-101FD 10280-1029C 102A0-102D0 102E0-102FB 10300-10323 1032D-1034A 10350-1037A
   10380-1039D 1039F-103C3 103C8-103D5 10400-1049D 104A0-104A9 104B0-104D3 104D8-104FB
   10500-10527 10530-10563 1056F-1057A 1057C-1058A 1058C-10592 10594-10595 10597-105A1
   105A3-105B1 105B3-105B9 105BB-105BC 10600-10736 10740-10755 10760-10767 10780-10785
   10787-107B0 107B2-107BA 10800-10805 10808 1080A-10835 10837-10838 1083C 1083F-10855
   10857-1089E 108A7-108AF 108E0-108F2 108F4-108F5 108FB-1091B 1091F-10939 1093F 10980-109B7
   109BC-109CF 109D2-10A03 10A05-10A06 10A0C-10A13 10A15-10A17 10A19-10A35 10A38-10A3A
   10A3F-10A48 10A50-10A58 10A60-10A9F 10AC0-10AE6 10AEB-10AF6 10B00-10B35 10B39-10B55
   10B58-10B72 10B78-10B91 10B99-10B9C 10BA9-10BAF 10C00-10C48 10C80-10CB2 10CC0-10CF2
   10CFA-10D27 10D30-10D39 10E60-10E7E 10E80-10EA9 10EAB-10EAD 10EB0-10EB1 10F00-10F27
   10F30-10F59 10F70-10F89 10FB0-10FCB 10FE0-10FF6 11000-1104D 11052-11075 1107F-110BC
   110BE-110C2 110D0-110E8 110F0-110F9 11100-11134 11136-11147 11150-11176 11180-111DF
   111E1-111F4 11200-11211 11213-1123E 11280-11286 11288 1128A-1128D 1128F-1129D 1129F-112A9
   112B0-112EA 112F0-112F9 11300-11303 11305-1130C 1130F-11310 11313-11328 1132A-11330
   11332-11333 11335-11339 1133B-11344 11347-11348 1134B-1134D 11350 11357 1135D-11363
   11366-1136C 11370-11374 11400-1145B 1145D-11461 11480-114C7 114D0-114D9 11580-115B5
   115B8-115DD 11600-11644 11650-11659 11660-1166C 11680-116B9 116C0-116C9 11700-1171A
   1171D-1172B 11730-11746 11800-1183B 118A0-118F2 118FF-11906 11909 1190C-11913 11915-11916
   11918-11935 11937-11938 1193B-11946 11950-11959 119A0-119A7 119AA-119D7 119DA-119E4
   11A00-11A47 11A50-11AA2 11AB0-11AF8 11C00-11C08 11C0A-11C36 11C38-11C45 11C50-11C6C
   11C70-11C8F 11C92-11CA7 11CA9-11CB6 11D00-11D06 11D08-11D09 11D0B-11D36 11D3A 11D3C-11D3D
   11D3F-11D47 11D50-11D59 11D60-11D65 11D67-11D68 11D6A-11D8E 11D90-11D91 11D93-11D98
   11DA0-11DA9 11EE0-11EF8 11FB0 11FC0-11FF1 11FFF-12399 12400-1246E 12470-12474 12480-12543
   12F90-12FF2 13000-1342E 14400-14646 16800-16A38 16A40-16A5E 16A60-16A69 16A6E-16ABE
   16AC0-16AC9 16AD0-16AED 16AF0-16AF5 16B00-16B45 16B50-16B59 16B5B-16B61 16B63-16B77
   16B7D-16B8F 16E40-16E9A 16F00-16F4A 16F4F-16F87 16F8F-16F9F 16FE0-16FE4 16FF0-16FF1
   17000-187F7 18800-18CD5 18D00-18D08 1AFF0-1AFF3 1AFF5-1AFFB 1AFFD-1AFFE 1B000-1B122
   1B150-1B152 1B164-1B167 1B170-1B2FB 1BC00-1BC6A 1BC70-1BC7C 1BC80-1BC88 1BC90-1BC99
   1BC9C-1BC9F 1CF00-1CF2D 1CF30-1CF46 1CF50-1CFC3 1D000-1D0F5 1D100-1D126 1D129-1D172
   1D17B-1D1EA 1D200-1D245 1D2E0-1D2F3 1D300-1D356 1D360-1D378 1D400-1D454 1D456-1D49C
   1D49E-1D49F 1D4A2 1D4A5-1D4A6 1D4A9-1D4AC 1D4AE-1D4B9 1D4BB 1D4BD-1D4C3 1D4C5-1D505
   1D507-1D50A 1D50D-1D514 1D516-1D51C 1D51E-1D539 1D53B-1D53E 1D540-1D544 1D546 1D54A-1D550
   1D552-1D6A5 1D6A8-1D7CB 1D7CE-1DA8B 1DA9B-1DA9F 1DAA1-1DAAF 1DF00-1DF1E 1E000-1E006
   1E008-1E018 1E01B-1E021 1E023-1E024 1E026-1E02A 1E100-1E12C 1E130-1E13D 1E140-1E149
   1E14E-1E14F 1E290-1E2AE 1E2C0-1E2F9 1E2FF 1E7E0-1E7E6 1E7E8-1E7EB 1E7ED-1E7EE 1E7F0-1E7FE
   1E800-1E8C4 1E8C7-1E8D6 1E900-1E94B 1E950-1E959 1E95E-1E95F 1EC71-1ECB4 1ED01-1ED3D
   1EE00-1EE03 1EE05-1EE1F 1EE21-1EE22 1EE24 1EE27 1EE29-1EE32 1EE34-1EE37 1EE39 1EE3B 1EE42
   1EE47 1EE49 1EE4B 1EE4D-1EE4F 1EE51-1EE52 1EE54 1EE57 1EE59 1EE5B 1EE5D 1EE5F 1EE61-1EE62
   1EE64 1EE67-1EE6A 1EE6C-1EE72 1EE74-1EE77 1EE79-1EE7C 1EE7E 1EE80-1EE89 1EE8B-1EE9B
   1EEA1-1EEA3 1EEA5-1EEA9 1EEAB-1EEBB 1EEF0-1EEF1 1F000-1F02B 1F030-1F093 1F0A0-1F0AE
   1F0B1-1F0BF 1F0C1-1F0CF 1F0D1-1F0F5 1F100-1F1AD 1F1E6-1F202 1F210-1F23B 1F240-1F248
   1F250-1F251 1F260-1F265 1F300-1F6D7 1F6DD-1F6EC 1F6F0-1F6FC 1F700-1F773 1F780-1F7D8
   1F7E0-1F7EB 1F7F0 1F800-1F80B 1F810-1F847 1F850-1F859 1F860-1F887 1F890-1F8AD 1F8B0-1F8B1
   1F900-1FA53 1FA60-1FA6D 1FA70-1FA74 1FA78-1FA7C 1FA80-1FA86 1FA90-1FAAC 1FAB0-1FABA
   1FAC0-1FAC5 1FAD0-1FAD9 1FAE0-1FAE7 1FAF0-1FAF6 1FB00-1FB92 1FB94-1FBCA 1FBF0-1FBF9
   20000-2A6DF 2A700-2B738 2B740-2B81D 2B820-2CEA1 2CEB0-2EBE0 2F800-2FA1D 30000-3134A
   E0100-E01EF"

def isPrintable (c : Char) : Bool :=
  printableSpans.holds c

end StoryRules.Text
