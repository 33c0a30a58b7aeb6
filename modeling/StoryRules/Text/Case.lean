import StoryRules.Text.Span

/-!
# Upper and lower case

The case mappings of Unicode 14: character by character (`lowerChar`, `upperChar`), and for whole
texts (`lower`, `upper`), where one character may become several and a sigma at the end of a word
takes its final form.
-/

namespace StoryRules.Text

/-- How far a character moves: every `stride`-th character of the span moves by `shift`. -/
structure Shift where
  stride : Nat
  shift : Int

def Shift.ofText (s : String) : Shift :=
  match s.splitOn ":" with
  | [stride, shift] => ⟨stride.toNat?.getD 1, shift.toInt?.getD 0⟩
  | _ => ⟨1, 0⟩

/-- The shifted character, where the table shifts it. -/
def shifted (table : Spans Shift) (c : Char) : Char :=
  match table.find? c.toNat with
  | none => c
  | some span =>
    if (c.toNat - span.first) % span.value.stride = 0 then
      Char.ofNat (c.toNat + span.value.shift).toNat
    else c

def lowerShifts : Spans Shift :=
  Spans.ofText Shift.ofText
  "0041-005A=1:32 00C0-00D6=1:32 00D8-00DE=1:32 0100-012E=2:1 0130=1:-199 0132-0136=2:1
   0139-0147=2:1 014A-0176=2:1 0178=1:-121 0179-017D=2:1 0181=1:210 0182-0184=2:1 0186=1:206
   0187=1:1 0189-018A=1:205 018B=1:1 018E=1:79 018F=1:202 0190=1:203 0191=1:1 0193=1:205
   0194=1:207 0196=1:211 0197=1:209 0198=1:1 019C=1:211 019D=1:213 019F=1:214 01A0-01A4=2:1
   01A6=1:218 01A7=1:1 01A9=1:218 01AC=1:1 01AE=1:218 01AF=1:1 01B1-01B2=1:217 01B3-01B5=2:1
   01B7=1:219 01B8=1:1 01BC=1:1 01C4=1:2 01C5=1:1 01C7=1:2 01C8=1:1 01CA=1:2 01CB-01DB=2:1
   01DE-01EE=2:1 01F1=1:2 01F2-01F4=2:1 01F6=1:-97 01F7=1:-56 01F8-021E=2:1 0220=1:-130
   0222-0232=2:1 023A=1:10795 023B=1:1 023D=1:-163 023E=1:10792 0241=1:1 0243=1:-195 0244=1:69
   0245=1:71 0246-024E=2:1 0370-0372=2:1 0376=1:1 037F=1:116 0386=1:38 0388-038A=1:37
   038C=1:64 038E-038F=1:63 0391-03A1=1:32 03A3-03AB=1:32 03CF=1:8 03D8-03EE=2:1 03F4=1:-60
   03F7=1:1 03F9=1:-7 03FA=1:1 03FD-03FF=1:-130 0400-040F=1:80 0410-042F=1:32 0460-0480=2:1
   048A-04BE=2:1 04C0=1:15 04C1-04CD=2:1 04D0-052E=2:1 0531-0556=1:48 10A0-10C5=1:7264
   10C7=1:7264 10CD=1:7264 13A0-13EF=1:38864 13F0-13F5=1:8 1C90-1CBA=1:-3008 1CBD-1CBF=1:-3008
   1E00-1E94=2:1 1E9E=1:-7615 1EA0-1EFE=2:1 1F08-1F0F=1:-8 1F18-1F1D=1:-8 1F28-1F2F=1:-8
   1F38-1F3F=1:-8 1F48-1F4D=1:-8 1F59=1:-8 1F5B=1:-8 1F5D=1:-8 1F5F=1:-8 1F68-1F6F=1:-8
   1F88-1F8F=1:-8 1F98-1F9F=1:-8 1FA8-1FAF=1:-8 1FB8-1FB9=1:-8 1FBA-1FBB=1:-74 1FBC=1:-9
   1FC8-1FCB=1:-86 1FCC=1:-9 1FD8-1FD9=1:-8 1FDA-1FDB=1:-100 1FE8-1FE9=1:-8 1FEA-1FEB=1:-112
   1FEC=1:-7 1FF8-1FF9=1:-128 1FFA-1FFB=1:-126 1FFC=1:-9 2126=1:-7517 212A=1:-8383
   212B=1:-8262 2132=1:28 2160-216F=1:16 2183=1:1 24B6-24CF=1:26 2C00-2C2F=1:48 2C60=1:1
   2C62=1:-10743 2C63=1:-3814 2C64=1:-10727 2C67-2C6B=2:1 2C6D=1:-10780 2C6E=1:-10749
   2C6F=1:-10783 2C70=1:-10782 2C72=1:1 2C75=1:1 2C7E-2C7F=1:-10815 2C80-2CE2=2:1
   2CEB-2CED=2:1 2CF2=1:1 A640-A66C=2:1 A680-A69A=2:1 A722-A72E=2:1 A732-A76E=2:1
   A779-A77B=2:1 A77D=1:-35332 A77E-A786=2:1 A78B=1:1 A78D=1:-42280 A790-A792=2:1
   A796-A7A8=2:1 A7AA=1:-42308 A7AB=1:-42319 A7AC=1:-42315 A7AD=1:-42305 A7AE=1:-42308
   A7B0=1:-42258 A7B1=1:-42282 A7B2=1:-42261 A7B3=1:928 A7B4-A7C2=2:1 A7C4=1:-48 A7C5=1:-42307
   A7C6=1:-35384 A7C7-A7C9=2:1 A7D0=1:1 A7D6-A7D8=2:1 A7F5=1:1 FF21-FF3A=1:32 10400-10427=1:40
   104B0-104D3=1:40 10570-1057A=1:39 1057C-1058A=1:39 1058C-10592=1:39 10594-10595=1:39
   10C80-10CB2=1:64 118A0-118BF=1:32 16E40-16E5F=1:32 1E900-1E921=1:34"

def upperShifts : Spans Shift :=
  Spans.ofText Shift.ofText
  "0061-007A=1:-32 00B5=1:743 00DF=1:-140 00E0-00F6=1:-32 00F8-00FE=1:-32 00FF=1:121
   0101-012F=2:-1 0131=1:-232 0133-0137=2:-1 013A-0148=2:-1 0149=1:371 014B-0177=2:-1
   017A-017E=2:-1 017F=1:-300 0180=1:195 0183-0185=2:-1 0188=1:-1 018C=1:-1 0192=1:-1
   0195=1:97 0199=1:-1 019A=1:163 019E=1:130 01A1-01A5=2:-1 01A8=1:-1 01AD=1:-1 01B0=1:-1
   01B4-01B6=2:-1 01B9=1:-1 01BD=1:-1 01BF=1:56 01C5=1:-1 01C6=1:-2 01C8=1:-1 01C9=1:-2
   01CB=1:-1 01CC=1:-2 01CE-01DC=2:-1 01DD=1:-79 01DF-01EF=2:-1 01F0=1:-422 01F2=1:-1
   01F3=1:-2 01F5=1:-1 01F9-021F=2:-1 0223-0233=2:-1 023C=1:-1 023F-0240=1:10815 0242=1:-1
   0247-024F=2:-1 0250=1:10783 0251=1:10780 0252=1:10782 0253=1:-210 0254=1:-206
   0256-0257=1:-205 0259=1:-202 025B=1:-203 025C=1:42319 0260=1:-205 0261=1:42315 0263=1:-207
   0265=1:42280 0266=1:42308 0268=1:-209 0269=1:-211 026A=1:42308 026B=1:10743 026C=1:42305
   026F=1:-211 0271=1:10749 0272=1:-213 0275=1:-214 027D=1:10727 0280=1:-218 0282=1:42307
   0283=1:-218 0287=1:42282 0288=1:-218 0289=1:-69 028A-028B=1:-217 028C=1:-71 0292=1:-219
   029D=1:42261 029E=1:42258 0345=1:84 0371-0373=2:-1 0377=1:-1 037B-037D=1:130 0390=1:9
   03AC=1:-38 03AD-03AF=1:-37 03B0=1:-11 03B1-03C1=1:-32 03C2=1:-31 03C3-03CB=1:-32 03CC=1:-64
   03CD-03CE=1:-63 03D0=1:-62 03D1=1:-57 03D5=1:-47 03D6=1:-54 03D7=1:-8 03D9-03EF=2:-1
   03F0=1:-86 03F1=1:-80 03F2=1:7 03F3=1:-116 03F5=1:-96 03F8=1:-1 03FB=1:-1 0430-044F=1:-32
   0450-045F=1:-80 0461-0481=2:-1 048B-04BF=2:-1 04C2-04CE=2:-1 04CF=1:-15 04D1-052F=2:-1
   0561-0586=1:-48 0587=1:-82 10D0-10FA=1:3008 10FD-10FF=1:3008 13F8-13FD=1:-8 1C80=1:-6254
   1C81=1:-6253 1C82=1:-6244 1C83-1C84=1:-6242 1C85=1:-6243 1C86=1:-6236 1C87=1:-6181
   1C88=1:35266 1D79=1:35332 1D7D=1:3814 1D8E=1:35384 1E01-1E95=2:-1 1E96=1:-7758 1E97=1:-7747
   1E98=1:-7745 1E99=1:-7744 1E9A=1:-7769 1E9B=1:-59 1EA1-1EFF=2:-1 1F00-1F07=1:8
   1F10-1F15=1:8 1F20-1F27=1:8 1F30-1F37=1:8 1F40-1F45=1:8 1F50=1:-7083 1F51=1:8 1F52=1:-7085
   1F53=1:8 1F54=1:-7087 1F55=1:8 1F56=1:-7089 1F57=1:8 1F60-1F67=1:8 1F70-1F71=1:74
   1F72-1F75=1:86 1F76-1F77=1:100 1F78-1F79=1:128 1F7A-1F7B=1:112 1F7C-1F7D=1:126
   1F80-1F87=1:-120 1F88-1F8F=1:-128 1F90-1F97=1:-104 1F98-1F9F=1:-112 1FA0-1FA7=1:-56
   1FA8-1FAF=1:-64 1FB0-1FB2=1:8 1FB3=1:-7202 1FB4=1:-7214 1FB6=1:-7205 1FB7=1:-7206
   1FBC=1:-7211 1FBE=1:-7205 1FC2=1:8 1FC3=1:-7212 1FC4=1:-7227 1FC6=1:-7215 1FC7=1:-7216
   1FCC=1:-7221 1FD0-1FD1=1:8 1FD2=1:-7225 1FD3=1:-7226 1FD6=1:-7229 1FD7=1:-7230
   1FE0-1FE1=1:8 1FE2=1:-7229 1FE3=1:-7230 1FE4=1:-7235 1FE5=1:7 1FE6=1:-7233 1FE7=1:-7234
   1FF2=1:8 1FF3=1:-7242 1FF4=1:-7269 1FF6=1:-7245 1FF7=1:-7246 1FFC=1:-7251 214E=1:-28
   2170-217F=1:-16 2184=1:-1 24D0-24E9=1:-26 2C30-2C5F=1:-48 2C61=1:-1 2C65=1:-10795
   2C66=1:-10792 2C68-2C6C=2:-1 2C73=1:-1 2C76=1:-1 2C81-2CE3=2:-1 2CEC-2CEE=2:-1 2CF3=1:-1
   2D00-2D25=1:-7264 2D27=1:-7264 2D2D=1:-7264 A641-A66D=2:-1 A681-A69B=2:-1 A723-A72F=2:-1
   A733-A76F=2:-1 A77A-A77C=2:-1 A77F-A787=2:-1 A78C=1:-1 A791-A793=2:-1 A794=1:48
   A797-A7A9=2:-1 A7B5-A7C3=2:-1 A7C8-A7CA=2:-1 A7D1=1:-1 A7D7-A7D9=2:-1 A7F6=1:-1 AB53=1:-928
   AB70-ABBF=1:-38864 FB00=1:-64186 FB01=1:-64187 FB02=1:-64188 FB03=1:-64189 FB04=1:-64190
   FB05=1:-64178 FB06=1:-64179 FB13=1:-62927 FB14=1:-62928 FB15=1:-62929 FB16=1:-62920
   FB17=1:-62931 FF41-FF5A=1:-32 10428-1044F=1:-40 104D8-104FB=1:-40 10597-105A1=1:-39
   105A3-105B1=1:-39 105B3-105B9=1:-39 105BB-105BC=1:-39 10CC0-10CF2=1:-64 118C0-118DF=1:-32
   16E60-16E7F=1:-32 1E922-1E943=1:-34"

/-- The lower-case form as one character. -/
def lowerChar (c : Char) : Char :=
  if c.toNat < 128 then c.toLower else shifted lowerShifts c

/-- The upper-case form as one character, the first one where the full form has several. -/
def upperChar (c : Char) : Char :=
  if c.toNat < 128 then c.toUpper else shifted upperShifts c

/-- Code points written in hexadecimal with plus signs between. -/
def pointsOfText (s : String) : List Char :=
  (s.splitOn "+").map fun point => Char.ofNat (hexValue point)

/-- The characters whose upper-case form has several characters. -/
def upperExpansions : Spans (List Char) :=
  Spans.ofText pointsOfText
  "00DF=0053+0053 0149=02BC+004E 01F0=004A+030C 0390=0399+0308+0301 03B0=03A5+0308+0301
   0587=0535+0552 1E96=0048+0331 1E97=0054+0308 1E98=0057+030A 1E99=0059+030A 1E9A=0041+02BE
   1F50=03A5+0313 1F52=03A5+0313+0300 1F54=03A5+0313+0301 1F56=03A5+0313+0342 1F80=1F08+0399
   1F81=1F09+0399 1F82=1F0A+0399 1F83=1F0B+0399 1F84=1F0C+0399 1F85=1F0D+0399 1F86=1F0E+0399
   1F87=1F0F+0399 1F88=1F08+0399 1F89=1F09+0399 1F8A=1F0A+0399 1F8B=1F0B+0399 1F8C=1F0C+0399
   1F8D=1F0D+0399 1F8E=1F0E+0399 1F8F=1F0F+0399 1F90=1F28+0399 1F91=1F29+0399 1F92=1F2A+0399
   1F93=1F2B+0399 1F94=1F2C+0399 1F95=1F2D+0399 1F96=1F2E+0399 1F97=1F2F+0399 1F98=1F28+0399
   1F99=1F29+0399 1F9A=1F2A+0399 1F9B=1F2B+0399 1F9C=1F2C+0399 1F9D=1F2D+0399 1F9E=1F2E+0399
   1F9F=1F2F+0399 1FA0=1F68+0399 1FA1=1F69+0399 1FA2=1F6A+0399 1FA3=1F6B+0399 1FA4=1F6C+0399
   1FA5=1F6D+0399 1FA6=1F6E+0399 1FA7=1F6F+0399 1FA8=1F68+0399 1FA9=1F69+0399 1FAA=1F6A+0399
   1FAB=1F6B+0399 1FAC=1F6C+0399 1FAD=1F6D+0399 1FAE=1F6E+0399 1FAF=1F6F+0399 1FB2=1FBA+0399
   1FB3=0391+0399 1FB4=0386+0399 1FB6=0391+0342 1FB7=0391+0342+0399 1FBC=0391+0399
   1FC2=1FCA+0399 1FC3=0397+0399 1FC4=0389+0399 1FC6=0397+0342 1FC7=0397+0342+0399
   1FCC=0397+0399 1FD2=0399+0308+0300 1FD3=0399+0308+0301 1FD6=0399+0342 1FD7=0399+0308+0342
   1FE2=03A5+0308+0300 1FE3=03A5+0308+0301 1FE4=03A1+0313 1FE6=03A5+0342 1FE7=03A5+0308+0342
   1FF2=1FFA+0399 1FF3=03A9+0399 1FF4=038F+0399 1FF6=03A9+0342 1FF7=03A9+0342+0399
   1FFC=03A9+0399 FB00=0046+0046 FB01=0046+0049 FB02=0046+004C FB03=0046+0046+0049
   FB04=0046+0046+004C FB05=0053+0054 FB06=0053+0054 FB13=0544+0546 FB14=0544+0535
   FB15=0544+053B FB16=054E+0546 FB17=0544+053D"

def upper (s : String) : String :=
  String.ofList <| s.toList.flatMap fun c =>
    if c.toNat < 128 then [c.toUpper]
    else match upperExpansions.find? c.toNat with
      | some span => span.value
      | none => [upperChar c]

/-! ## Final sigma -/

def casedSpans : Spans Unit :=
  Spans.plain
  "0041-005A 0061-007A 00AA 00B5 00BA 00C0-00D6 00D8-00F6 00F8-01BA 01BC-01BF 01C4-0293
   0295-02B8 02C0-02C1 02E0-02E4 0345 0370-0373 0376-0377 037A-037D 037F 0386 0388-038A 038C
   038E-03A1 03A3-03F5 03F7-0481 048A-052F 0531-0556 0560-0588 10A0-10C5 10C7 10CD 10D0-10FA
   10FD-10FF 13A0-13F5 13F8-13FD 1C80-1C88 1C90-1CBA 1CBD-1CBF 1D00-1DBF 1E00-1F15 1F18-1F1D
   1F20-1F45 1F48-1F4D 1F50-1F57 1F59 1F5B 1F5D 1F5F-1F7D 1F80-1FB4 1FB6-1FBC 1FBE 1FC2-1FC4
   1FC6-1FCC 1FD0-1FD3 1FD6-1FDB 1FE0-1FEC 1FF2-1FF4 1FF6-1FFC 2071 207F 2090-209C 2102 2107
   210A-2113 2115 2119-211D 2124 2126 2128 212A-212D 212F-2134 2139 213C-213F 2145-2149 214E
   2160-217F 2183-2184 24B6-24E9 2C00-2CE4 2CEB-2CEE 2CF2-2CF3 2D00-2D25 2D27 2D2D A640-A66D
   A680-A69D A722-A787 A78B-A78E A790-A7CA A7D0-A7D1 A7D3 A7D5-A7D9 A7F5-A7F6 A7F8-A7FA
   AB30-AB5A AB5C-AB68 AB70-ABBF FB00-FB06 FB13-FB17 FF21-FF3A FF41-FF5A 10400-1044F
   104B0-104D3 104D8-104FB 10570-1057A 1057C-1058A 1058C-10592 10594-10595 10597-105A1
   105A3-105B1 105B3-105B9 105BB-105BC 10780 10783-10785 10787-107B0 107B2-107BA 10C80-10CB2
   10CC0-10CF2 118A0-118DF 16E40-16E7F 1D400-1D454 1D456-1D49C 1D49E-1D49F 1D4A2 1D4A5-1D4A6
   1D4A9-1D4AC 1D4AE-1D4B9 1D4BB 1D4BD-1D4C3 1D4C5-1D505 1D507-1D50A 1D50D-1D514 1D516-1D51C
   1D51E-1D539 1D53B-1D53E 1D540-1D544 1D546 1D54A-1D550 1D552-1D6A5 1D6A8-1D6C0 1D6C2-1D6DA
   1D6DC-1D6FA 1D6FC-1D714 1D716-1D734 1D736-1D74E 1D750-1D76E 1D770-1D788 1D78A-1D7A8
   1D7AA-1D7C2 1D7C4-1D7CB 1DF00-1DF09 1DF0B-1DF1E 1E900-1E943 1F130-1F149 1F150-1F169
   1F170-1F189"

def caseIgnorableSpans : Spans Unit :=
  Spans.plain
  "0027 002E 003A 005E 0060 00A8 00AD 00AF 00B4 00B7-00B8 02B0-036F 0374-0375 037A 0384-0385
   0387 0483-0489 0559 055F 0591-05BD 05BF 05C1-05C2 05C4-05C5 05C7 05F4 0600-0605 0610-061A
   061C 0640 064B-065F 0670 06D6-06DD 06DF-06E8 06EA-06ED 070F 0711 0730-074A 07A6-07B0
   07EB-07F5 07FA 07FD 0816-082D 0859-085B 0888 0890-0891 0898-089F 08C9-0902 093A 093C
   0941-0948 094D 0951-0957 0962-0963 0971 0981 09BC 09C1-09C4 09CD 09E2-09E3 09FE 0A01-0A02
   0A3C 0A41-0A42 0A47-0A48 0A4B-0A4D 0A51 0A70-0A71 0A75 0A81-0A82 0ABC 0AC1-0AC5 0AC7-0AC8
   0ACD 0AE2-0AE3 0AFA-0AFF 0B01 0B3C 0B3F 0B41-0B44 0B4D 0B55-0B56 0B62-0B63 0B82 0BC0 0BCD
   0C00 0C04 0C3C 0C3E-0C40 0C46-0C48 0C4A-0C4D 0C55-0C56 0C62-0C63 0C81 0CBC 0CBF 0CC6
   0CCC-0CCD 0CE2-0CE3 0D00-0D01 0D3B-0D3C 0D41-0D44 0D4D 0D62-0D63 0D81 0DCA 0DD2-0DD4 0DD6
   0E31 0E34-0E3A 0E46-0E4E 0EB1 0EB4-0EBC 0EC6 0EC8-0ECD 0F18-0F19 0F35 0F37 0F39 0F71-0F7E
   0F80-0F84 0F86-0F87 0F8D-0F97 0F99-0FBC 0FC6 102D-1030 1032-1037 1039-103A 103D-103E
   1058-1059 105E-1060 1071-1074 1082 1085-1086 108D 109D 10FC 135D-135F 1712-1714 1732-1733
   1752-1753 1772-1773 17B4-17B5 17B7-17BD 17C6 17C9-17D3 17D7 17DD 180B-180F 1843 1885-1886
   18A9 1920-1922 1927-1928 1932 1939-193B 1A17-1A18 1A1B 1A56 1A58-1A5E 1A60 1A62 1A65-1A6C
   1A73-1A7C 1A7F 1AA7 1AB0-1ACE 1B00-1B03 1B34 1B36-1B3A 1B3C 1B42 1B6B-1B73 1B80-1B81
   1BA2-1BA5 1BA8-1BA9 1BAB-1BAD 1BE6 1BE8-1BE9 1BED 1BEF-1BF1 1C2C-1C33 1C36-1C37 1C78-1C7D
   1CD0-1CD2 1CD4-1CE0 1CE2-1CE8 1CED 1CF4 1CF8-1CF9 1D2C-1D6A 1D78 1D9B-1DFF 1FBD 1FBF-1FC1
   1FCD-1FCF 1FDD-1FDF 1FED-1FEF 1FFD-1FFE 200B-200F 2018-2019 2024 2027 202A-202E 2060-2064
   2066-206F 2071 207F 2090-209C 20D0-20F0 2C7C-2C7D 2CEF-2CF1 2D6F 2D7F 2DE0-2DFF 2E2F 3005
   302A-302D 3031-3035 303B 3099-309E 30FC-30FE A015 A4F8-A4FD A60C A66F-A672 A674-A67D A67F
   A69C-A69F A6F0-A6F1 A700-A721 A770 A788-A78A A7F2-A7F4 A7F8-A7F9 A802 A806 A80B A825-A826
   A82C A8C4-A8C5 A8E0-A8F1 A8FF A926-A92D A947-A951 A980-A982 A9B3 A9B6-A9B9 A9BC-A9BD A9CF
   A9E5-A9E6 AA29-AA2E AA31-AA32 AA35-AA36 AA43 AA4C AA70 AA7C AAB0 AAB2-AAB4 AAB7-AAB8
   AABE-AABF AAC1 AADD AAEC-AAED AAF3-AAF4 AAF6 AB5B-AB5F AB69-AB6B ABE5 ABE8 ABED FB1E
   FBB2-FBC2 FE00-FE0F FE13 FE20-FE2F FE52 FE55 FEFF FF07 FF0E FF1A FF3E FF40 FF70 FF9E-FF9F
   FFE3 FFF9-FFFB 101FD 102E0 10376-1037A 10780-10785 10787-107B0 107B2-107BA 10A01-10A03
   10A05-10A06 10A0C-10A0F 10A38-10A3A 10A3F 10AE5-10AE6 10D24-10D27 10EAB-10EAC 10F46-10F50
   10F82-10F85 11001 11038-11046 11070 11073-11074 1107F-11081 110B3-110B6 110B9-110BA 110BD
   110C2 110CD 11100-11102 11127-1112B 1112D-11134 11173 11180-11181 111B6-111BE 111C9-111CC
   111CF 1122F-11231 11234 11236-11237 1123E 112DF 112E3-112EA 11300-11301 1133B-1133C 11340
   11366-1136C 11370-11374 11438-1143F 11442-11444 11446 1145E 114B3-114B8 114BA 114BF-114C0
   114C2-114C3 115B2-115B5 115BC-115BD 115BF-115C0 115DC-115DD 11633-1163A 1163D 1163F-11640
   116AB 116AD 116B0-116B5 116B7 1171D-1171F 11722-11725 11727-1172B 1182F-11837 11839-1183A
   1193B-1193C 1193E 11943 119D4-119D7 119DA-119DB 119E0 11A01-11A0A 11A33-11A38 11A3B-11A3E
   11A47 11A51-11A56 11A59-11A5B 11A8A-11A96 11A98-11A99 11C30-11C36 11C38-11C3D 11C3F
   11C92-11CA7 11CAA-11CB0 11CB2-11CB3 11CB5-11CB6 11D31-11D36 11D3A 11D3C-11D3D 11D3F-11D45
   11D47 11D90-11D91 11D95 11D97 11EF3-11EF4 13430-13438 16AF0-16AF4 16B30-16B36 16B40-16B43
   16F4F 16F8F-16F9F 16FE0-16FE1 16FE3-16FE4 1AFF0-1AFF3 1AFF5-1AFFB 1AFFD-1AFFE 1BC9D-1BC9E
   1BCA0-1BCA3 1CF00-1CF2D 1CF30-1CF46 1D167-1D169 1D173-1D182 1D185-1D18B 1D1AA-1D1AD
   1D242-1D244 1DA00-1DA36 1DA3B-1DA6C 1DA75 1DA84 1DA9B-1DA9F 1DAA1-1DAAF 1E000-1E006
   1E008-1E018 1E01B-1E021 1E023-1E024 1E026-1E02A 1E130-1E13D 1E2AE 1E2EC-1E2EF 1E8D0-1E8D6
   1E944-1E94B 1F3FB-1F3FF E0001 E0020-E007F E0100-E01EF"

/-- Whether the first character that case rules do not skip is a letter with case. -/
def meetsCased (cs : List Char) : Bool :=
  match cs.dropWhile caseIgnorableSpans.holds with
  | c :: _ => casedSpans.holds c
  | [] => false

/-- Lower-cases the rest of a text; `before` holds the characters already read, last one first.
A capital sigma is final when a cased letter precedes it and none follows. -/
def lowerFrom (before : List Char) : List Char → List Char
  | [] => []
  | c :: rest =>
    let form :=
      if c = 'Σ' then
        if meetsCased before && !meetsCased rest then ['ς'] else ['σ']
      else if c = 'İ' then ['i', Char.ofNat 0x307]
      else [lowerChar c]
    form ++ lowerFrom (c :: before) rest

def lower (s : String) : String :=
  String.ofList (lowerFrom [] s.toList)

end StoryRules.Text
