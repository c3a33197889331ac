import PatternLint.Text.CodeSet
import PatternLint.Text.NameBlock

/-!
# Character names of further scripts

Names of further letters and signs, those of Armenian, Hebrew, Arabic, Hiragana and Katakana among them, and of
Hangul syllables and ideographs, which are spelled out by rules.
-/

namespace PatternLint.Text

/-- More Latin letters. -/
def block0180 : NameBlock where
  first := 0x0180
  names :=
    String.join
      ["LATIN SMALL LETTER B WITH STROKE;LATIN CAPITAL LETTER B WITH HOOK;LATIN CAPITAL LETTER B WITH ",
        "TOPBAR;LATIN SMALL LETTER B WITH TOPBAR;LATIN CAPITAL LETTER TONE SIX;LATIN SMALL LETTER TONE SIX;",
        "LATIN CAPITAL LETTER OPEN O;LATIN CAPITAL LETTER C WITH HOOK;LATIN SMALL LETTER C WITH HOOK;LATIN ",
        "CAPITAL LETTER AFRICAN D;LATIN CAPITAL LETTER D WITH HOOK;LATIN CAPITAL LETTER D WITH TOPBAR;",
        "LATIN SMALL LETTER D WITH TOPBAR;LATIN SMALL LETTER TURNED DELTA;LATIN CAPITAL LETTER REVERSED E;",
        "LATIN CAPITAL LETTER SCHWA;LATIN CAPITAL LETTER OPEN E;LATIN CAPITAL LETTER F WITH HOOK;LATIN ",
        "SMALL LETTER F WITH HOOK;LATIN CAPITAL LETTER G WITH HOOK;LATIN CAPITAL LETTER GAMMA;LATIN SMALL ",
        "LETTER HV;LATIN CAPITAL LETTER IOTA;LATIN CAPITAL LETTER I WITH STROKE;LATIN CAPITAL LETTER K ",
        "WITH HOOK;LATIN SMALL LETTER K WITH HOOK;LATIN SMALL LETTER L WITH BAR;LATIN SMALL LETTER LAMBDA ",
        "WITH STROKE;LATIN CAPITAL LETTER TURNED M;LATIN CAPITAL LETTER N WITH LEFT HOOK;LATIN SMALL ",
        "LETTER N WITH LONG RIGHT LEG;LATIN CAPITAL LETTER O WITH MIDDLE TILDE;LATIN CAPITAL LETTER O WITH ",
        "HORN;LATIN SMALL LETTER O WITH HORN;LATIN CAPITAL LETTER OI;LATIN SMALL LETTER OI;LATIN CAPITAL ",
        "LETTER P WITH HOOK;LATIN SMALL LETTER P WITH HOOK;LATIN LETTER YR;LATIN CAPITAL LETTER TONE TWO;",
        "LATIN SMALL LETTER TONE TWO;LATIN CAPITAL LETTER ESH;LATIN LETTER REVERSED ESH LOOP;LATIN SMALL ",
        "LETTER T WITH PALATAL HOOK;LATIN CAPITAL LETTER T WITH HOOK;LATIN SMALL LETTER T WITH HOOK;LATIN ",
        "CAPITAL LETTER T WITH RETROFLEX HOOK;LATIN CAPITAL LETTER U WITH HORN;LATIN SMALL LETTER U WITH ",
        "HORN;LATIN CAPITAL LETTER UPSILON;LATIN CAPITAL LETTER V WITH HOOK;LATIN CAPITAL LETTER Y WITH ",
        "HOOK;LATIN SMALL LETTER Y WITH HOOK;LATIN CAPITAL LETTER Z WITH STROKE;LATIN SMALL LETTER Z WITH ",
        "STROKE;LATIN CAPITAL LETTER EZH;LATIN CAPITAL LETTER EZH REVERSED;LATIN SMALL LETTER EZH REVERSED;",
        "LATIN SMALL LETTER EZH WITH TAIL;LATIN LETTER TWO WITH STROKE;LATIN CAPITAL LETTER TONE FIVE;",
        "LATIN SMALL LETTER TONE FIVE;LATIN LETTER INVERTED GLOTTAL STOP WITH STROKE;LATIN LETTER WYNN;",
        "LATIN LETTER DENTAL CLICK;LATIN LETTER LATERAL CLICK;LATIN LETTER ALVEOLAR CLICK;LATIN LETTER ",
        "RETROFLEX CLICK;LATIN CAPITAL LETTER DZ WITH CARON;LATIN CAPITAL LETTER D WITH SMALL LETTER Z ",
        "WITH CARON;LATIN SMALL LETTER DZ WITH CARON;LATIN CAPITAL LETTER LJ;LATIN CAPITAL LETTER L WITH ",
        "SMALL LETTER J;LATIN SMALL LETTER LJ;LATIN CAPITAL LETTER NJ;LATIN CAPITAL LETTER N WITH SMALL ",
        "LETTER J;LATIN SMALL LETTER NJ;LATIN CAPITAL LETTER A WITH CARON;LATIN SMALL LETTER A WITH CARON;",
        "LATIN CAPITAL LETTER I WITH CARON;LATIN SMALL LETTER I WITH CARON;LATIN CAPITAL LETTER O WITH ",
        "CARON;LATIN SMALL LETTER O WITH CARON;LATIN CAPITAL LETTER U WITH CARON;LATIN SMALL LETTER U WITH ",
        "CARON;LATIN CAPITAL LETTER U WITH DIAERESIS AND MACRON;LATIN SMALL LETTER U WITH DIAERESIS AND ",
        "MACRON;LATIN CAPITAL LETTER U WITH DIAERESIS AND ACUTE;LATIN SMALL LETTER U WITH DIAERESIS AND ",
        "ACUTE;LATIN CAPITAL LETTER U WITH DIAERESIS AND CARON;LATIN SMALL LETTER U WITH DIAERESIS AND ",
        "CARON;LATIN CAPITAL LETTER U WITH DIAERESIS AND GRAVE;LATIN SMALL LETTER U WITH DIAERESIS AND ",
        "GRAVE;LATIN SMALL LETTER TURNED E;LATIN CAPITAL LETTER A WITH DIAERESIS AND MACRON;LATIN SMALL ",
        "LETTER A WITH DIAERESIS AND MACRON;LATIN CAPITAL LETTER A WITH DOT ABOVE AND MACRON;LATIN SMALL ",
        "LETTER A WITH DOT ABOVE AND MACRON;LATIN CAPITAL LETTER AE WITH MACRON;LATIN SMALL LETTER AE WITH ",
        "MACRON;LATIN CAPITAL LETTER G WITH STROKE;LATIN SMALL LETTER G WITH STROKE;LATIN CAPITAL LETTER G ",
        "WITH CARON;LATIN SMALL LETTER G WITH CARON;LATIN CAPITAL LETTER K WITH CARON;LATIN SMALL LETTER K ",
        "WITH CARON;LATIN CAPITAL LETTER O WITH OGONEK;LATIN SMALL LETTER O WITH OGONEK;LATIN CAPITAL ",
        "LETTER O WITH OGONEK AND MACRON;LATIN SMALL LETTER O WITH OGONEK AND MACRON;LATIN CAPITAL LETTER ",
        "EZH WITH CARON;LATIN SMALL LETTER EZH WITH CARON;LATIN SMALL LETTER J WITH CARON;LATIN CAPITAL ",
        "LETTER DZ;LATIN CAPITAL LETTER D WITH SMALL LETTER Z;LATIN SMALL LETTER DZ;LATIN CAPITAL LETTER G ",
        "WITH ACUTE;LATIN SMALL LETTER G WITH ACUTE;LATIN CAPITAL LETTER HWAIR;LATIN CAPITAL LETTER WYNN;",
        "LATIN CAPITAL LETTER N WITH GRAVE;LATIN SMALL LETTER N WITH GRAVE;LATIN CAPITAL LETTER A WITH ",
        "RING ABOVE AND ACUTE;LATIN SMALL LETTER A WITH RING ABOVE AND ACUTE;LATIN CAPITAL LETTER AE WITH ",
        "ACUTE;LATIN SMALL LETTER AE WITH ACUTE;LATIN CAPITAL LETTER O WITH STROKE AND ACUTE;LATIN SMALL ",
        "LETTER O WITH STROKE AND ACUTE;LATIN CAPITAL LETTER A WITH DOUBLE GRAVE;LATIN SMALL LETTER A WITH ",
        "DOUBLE GRAVE;LATIN CAPITAL LETTER A WITH INVERTED BREVE;LATIN SMALL LETTER A WITH INVERTED BREVE;",
        "LATIN CAPITAL LETTER E WITH DOUBLE GRAVE;LATIN SMALL LETTER E WITH DOUBLE GRAVE;LATIN CAPITAL ",
        "LETTER E WITH INVERTED BREVE;LATIN SMALL LETTER E WITH INVERTED BREVE;LATIN CAPITAL LETTER I WITH ",
        "DOUBLE GRAVE;LATIN SMALL LETTER I WITH DOUBLE GRAVE;LATIN CAPITAL LETTER I WITH INVERTED BREVE;",
        "LATIN SMALL LETTER I WITH INVERTED BREVE;LATIN CAPITAL LETTER O WITH DOUBLE GRAVE;LATIN SMALL ",
        "LETTER O WITH DOUBLE GRAVE;LATIN CAPITAL LETTER O WITH INVERTED BREVE;LATIN SMALL LETTER O WITH ",
        "INVERTED BREVE;LATIN CAPITAL LETTER R WITH DOUBLE GRAVE;LATIN SMALL LETTER R WITH DOUBLE GRAVE;",
        "LATIN CAPITAL LETTER R WITH INVERTED BREVE;LATIN SMALL LETTER R WITH INVERTED BREVE;LATIN CAPITAL ",
        "LETTER U WITH DOUBLE GRAVE;LATIN SMALL LETTER U WITH DOUBLE GRAVE;LATIN CAPITAL LETTER U WITH ",
        "INVERTED BREVE;LATIN SMALL LETTER U WITH INVERTED BREVE;LATIN CAPITAL LETTER S WITH COMMA BELOW;",
        "LATIN SMALL LETTER S WITH COMMA BELOW;LATIN CAPITAL LETTER T WITH COMMA BELOW;LATIN SMALL LETTER ",
        "T WITH COMMA BELOW;LATIN CAPITAL LETTER YOGH;LATIN SMALL LETTER YOGH;LATIN CAPITAL LETTER H WITH ",
        "CARON;LATIN SMALL LETTER H WITH CARON;LATIN CAPITAL LETTER N WITH LONG RIGHT LEG;LATIN SMALL ",
        "LETTER D WITH CURL;LATIN CAPITAL LETTER OU;LATIN SMALL LETTER OU;LATIN CAPITAL LETTER Z WITH HOOK;",
        "LATIN SMALL LETTER Z WITH HOOK;LATIN CAPITAL LETTER A WITH DOT ABOVE;LATIN SMALL LETTER A WITH ",
        "DOT ABOVE;LATIN CAPITAL LETTER E WITH CEDILLA;LATIN SMALL LETTER E WITH CEDILLA;LATIN CAPITAL ",
        "LETTER O WITH DIAERESIS AND MACRON;LATIN SMALL LETTER O WITH DIAERESIS AND MACRON;LATIN CAPITAL ",
        "LETTER O WITH TILDE AND MACRON;LATIN SMALL LETTER O WITH TILDE AND MACRON;LATIN CAPITAL LETTER O ",
        "WITH DOT ABOVE;LATIN SMALL LETTER O WITH DOT ABOVE;LATIN CAPITAL LETTER O WITH DOT ABOVE AND ",
        "MACRON;LATIN SMALL LETTER O WITH DOT ABOVE AND MACRON;LATIN CAPITAL LETTER Y WITH MACRON;LATIN ",
        "SMALL LETTER Y WITH MACRON;LATIN SMALL LETTER L WITH CURL;LATIN SMALL LETTER N WITH CURL;LATIN ",
        "SMALL LETTER T WITH CURL;LATIN SMALL LETTER DOTLESS J;LATIN SMALL LETTER DB DIGRAPH;LATIN SMALL ",
        "LETTER QP DIGRAPH;LATIN CAPITAL LETTER A WITH STROKE;LATIN CAPITAL LETTER C WITH STROKE;LATIN ",
        "SMALL LETTER C WITH STROKE;LATIN CAPITAL LETTER L WITH BAR;LATIN CAPITAL LETTER T WITH DIAGONAL ",
        "STROKE;LATIN SMALL LETTER S WITH SWASH TAIL;LATIN SMALL LETTER Z WITH SWASH TAIL;LATIN CAPITAL ",
        "LETTER GLOTTAL STOP;LATIN SMALL LETTER GLOTTAL STOP;LATIN CAPITAL LETTER B WITH STROKE;LATIN ",
        "CAPITAL LETTER U BAR;LATIN CAPITAL LETTER TURNED V;LATIN CAPITAL LETTER E WITH STROKE;LATIN SMALL ",
        "LETTER E WITH STROKE;LATIN CAPITAL LETTER J WITH STROKE;LATIN SMALL LETTER J WITH STROKE;LATIN ",
        "CAPITAL LETTER SMALL Q WITH HOOK TAIL;LATIN SMALL LETTER Q WITH HOOK TAIL;LATIN CAPITAL LETTER R ",
        "WITH STROKE;LATIN SMALL LETTER R WITH STROKE;LATIN CAPITAL LETTER Y WITH STROKE;LATIN SMALL ",
        "LETTER Y WITH STROKE"]

/-- Phonetic letters. -/
def block0250 : NameBlock where
  first := 0x0250
  names :=
    String.join
      ["LATIN SMALL LETTER TURNED A;LATIN SMALL LETTER ALPHA;LATIN SMALL LETTER TURNED ALPHA;LATIN SMALL ",
        "LETTER B WITH HOOK;LATIN SMALL LETTER OPEN O;LATIN SMALL LETTER C WITH CURL;LATIN SMALL LETTER D ",
        "WITH TAIL;LATIN SMALL LETTER D WITH HOOK;LATIN SMALL LETTER REVERSED E;LATIN SMALL LETTER SCHWA;",
        "LATIN SMALL LETTER SCHWA WITH HOOK;LATIN SMALL LETTER OPEN E;LATIN SMALL LETTER REVERSED OPEN E;",
        "LATIN SMALL LETTER REVERSED OPEN E WITH HOOK;LATIN SMALL LETTER CLOSED REVERSED OPEN E;LATIN ",
        "SMALL LETTER DOTLESS J WITH STROKE;LATIN SMALL LETTER G WITH HOOK;LATIN SMALL LETTER SCRIPT G;",
        "LATIN LETTER SMALL CAPITAL G;LATIN SMALL LETTER GAMMA;LATIN SMALL LETTER RAMS HORN;LATIN SMALL ",
        "LETTER TURNED H;LATIN SMALL LETTER H WITH HOOK;LATIN SMALL LETTER HENG WITH HOOK;LATIN SMALL ",
        "LETTER I WITH STROKE;LATIN SMALL LETTER IOTA;LATIN LETTER SMALL CAPITAL I;LATIN SMALL LETTER L ",
        "WITH MIDDLE TILDE;LATIN SMALL LETTER L WITH BELT;LATIN SMALL LETTER L WITH RETROFLEX HOOK;LATIN ",
        "SMALL LETTER LEZH;LATIN SMALL LETTER TURNED M;LATIN SMALL LETTER TURNED M WITH LONG LEG;LATIN ",
        "SMALL LETTER M WITH HOOK;LATIN SMALL LETTER N WITH LEFT HOOK;LATIN SMALL LETTER N WITH RETROFLEX ",
        "HOOK;LATIN LETTER SMALL CAPITAL N;LATIN SMALL LETTER BARRED O;LATIN LETTER SMALL CAPITAL OE;LATIN ",
        "SMALL LETTER CLOSED OMEGA;LATIN SMALL LETTER PHI;LATIN SMALL LETTER TURNED R;LATIN SMALL LETTER ",
        "TURNED R WITH LONG LEG;LATIN SMALL LETTER TURNED R WITH HOOK;LATIN SMALL LETTER R WITH LONG LEG;",
        "LATIN SMALL LETTER R WITH TAIL;LATIN SMALL LETTER R WITH FISHHOOK;LATIN SMALL LETTER REVERSED R ",
        "WITH FISHHOOK;LATIN LETTER SMALL CAPITAL R;LATIN LETTER SMALL CAPITAL INVERTED R;LATIN SMALL ",
        "LETTER S WITH HOOK;LATIN SMALL LETTER ESH;LATIN SMALL LETTER DOTLESS J WITH STROKE AND HOOK;LATIN ",
        "SMALL LETTER SQUAT REVERSED ESH;LATIN SMALL LETTER ESH WITH CURL;LATIN SMALL LETTER TURNED T;",
        "LATIN SMALL LETTER T WITH RETROFLEX HOOK;LATIN SMALL LETTER U BAR;LATIN SMALL LETTER UPSILON;",
        "LATIN SMALL LETTER V WITH HOOK;LATIN SMALL LETTER TURNED V;LATIN SMALL LETTER TURNED W;LATIN ",
        "SMALL LETTER TURNED Y;LATIN LETTER SMALL CAPITAL Y;LATIN SMALL LETTER Z WITH RETROFLEX HOOK;LATIN ",
        "SMALL LETTER Z WITH CURL;LATIN SMALL LETTER EZH;LATIN SMALL LETTER EZH WITH CURL;LATIN LETTER ",
        "GLOTTAL STOP;LATIN LETTER PHARYNGEAL VOICED FRICATIVE;LATIN LETTER INVERTED GLOTTAL STOP;LATIN ",
        "LETTER STRETCHED C;LATIN LETTER BILABIAL CLICK;LATIN LETTER SMALL CAPITAL B;LATIN SMALL LETTER ",
        "CLOSED OPEN E;LATIN LETTER SMALL CAPITAL G WITH HOOK;LATIN LETTER SMALL CAPITAL H;LATIN SMALL ",
        "LETTER J WITH CROSSED-TAIL;LATIN SMALL LETTER TURNED K;LATIN LETTER SMALL CAPITAL L;LATIN SMALL ",
        "LETTER Q WITH HOOK;LATIN LETTER GLOTTAL STOP WITH STROKE;LATIN LETTER REVERSED GLOTTAL STOP WITH ",
        "STROKE;LATIN SMALL LETTER DZ DIGRAPH;LATIN SMALL LETTER DEZH DIGRAPH;LATIN SMALL LETTER DZ ",
        "DIGRAPH WITH CURL;LATIN SMALL LETTER TS DIGRAPH;LATIN SMALL LETTER TESH DIGRAPH;LATIN SMALL ",
        "LETTER TC DIGRAPH WITH CURL;LATIN SMALL LETTER FENG DIGRAPH;LATIN SMALL LETTER LS DIGRAPH;LATIN ",
        "SMALL LETTER LZ DIGRAPH;LATIN LETTER BILABIAL PERCUSSIVE;LATIN LETTER BIDENTAL PERCUSSIVE;LATIN ",
        "SMALL LETTER TURNED H WITH FISHHOOK;LATIN SMALL LETTER TURNED H WITH FISHHOOK AND TAIL;MODIFIER ",
        "LETTER SMALL H;MODIFIER LETTER SMALL H WITH HOOK;MODIFIER LETTER SMALL J;MODIFIER LETTER SMALL R;",
        "MODIFIER LETTER SMALL TURNED R;MODIFIER LETTER SMALL TURNED R WITH HOOK;MODIFIER LETTER SMALL ",
        "CAPITAL INVERTED R;MODIFIER LETTER SMALL W;MODIFIER LETTER SMALL Y;MODIFIER LETTER PRIME;MODIFIER ",
        "LETTER DOUBLE PRIME;MODIFIER LETTER TURNED COMMA;MODIFIER LETTER APOSTROPHE;MODIFIER LETTER ",
        "REVERSED COMMA;MODIFIER LETTER RIGHT HALF RING;MODIFIER LETTER LEFT HALF RING;MODIFIER LETTER ",
        "GLOTTAL STOP;MODIFIER LETTER REVERSED GLOTTAL STOP;MODIFIER LETTER LEFT ARROWHEAD;MODIFIER LETTER ",
        "RIGHT ARROWHEAD;MODIFIER LETTER UP ARROWHEAD;MODIFIER LETTER DOWN ARROWHEAD;MODIFIER LETTER ",
        "CIRCUMFLEX ACCENT;CARON;MODIFIER LETTER VERTICAL LINE;MODIFIER LETTER MACRON;MODIFIER LETTER ",
        "ACUTE ACCENT;MODIFIER LETTER GRAVE ACCENT;MODIFIER LETTER LOW VERTICAL LINE;MODIFIER LETTER LOW ",
        "MACRON;MODIFIER LETTER LOW GRAVE ACCENT;MODIFIER LETTER LOW ACUTE ACCENT;MODIFIER LETTER ",
        "TRIANGULAR COLON;MODIFIER LETTER HALF TRIANGULAR COLON;MODIFIER LETTER CENTRED RIGHT HALF RING;",
        "MODIFIER LETTER CENTRED LEFT HALF RING;MODIFIER LETTER UP TACK;MODIFIER LETTER DOWN TACK;MODIFIER ",
        "LETTER PLUS SIGN;MODIFIER LETTER MINUS SIGN;BREVE;DOT ABOVE;RING ABOVE;OGONEK;SMALL TILDE;DOUBLE ",
        "ACUTE ACCENT;MODIFIER LETTER RHOTIC HOOK;MODIFIER LETTER CROSS ACCENT;MODIFIER LETTER SMALL GAMMA;",
        "MODIFIER LETTER SMALL L;MODIFIER LETTER SMALL S;MODIFIER LETTER SMALL X;MODIFIER LETTER SMALL ",
        "REVERSED GLOTTAL STOP;MODIFIER LETTER EXTRA-HIGH TONE BAR;MODIFIER LETTER HIGH TONE BAR;MODIFIER ",
        "LETTER MID TONE BAR;MODIFIER LETTER LOW TONE BAR;MODIFIER LETTER EXTRA-LOW TONE BAR;MODIFIER ",
        "LETTER YIN DEPARTING TONE MARK;MODIFIER LETTER YANG DEPARTING TONE MARK;MODIFIER LETTER VOICING;",
        "MODIFIER LETTER UNASPIRATED;MODIFIER LETTER DOUBLE APOSTROPHE;MODIFIER LETTER LOW DOWN ARROWHEAD;",
        "MODIFIER LETTER LOW UP ARROWHEAD;MODIFIER LETTER LOW LEFT ARROWHEAD;MODIFIER LETTER LOW RIGHT ",
        "ARROWHEAD;MODIFIER LETTER LOW RING;MODIFIER LETTER MIDDLE GRAVE ACCENT;MODIFIER LETTER MIDDLE ",
        "DOUBLE GRAVE ACCENT;MODIFIER LETTER MIDDLE DOUBLE ACUTE ACCENT;MODIFIER LETTER LOW TILDE;MODIFIER ",
        "LETTER RAISED COLON;MODIFIER LETTER BEGIN HIGH TONE;MODIFIER LETTER END HIGH TONE;MODIFIER LETTER ",
        "BEGIN LOW TONE;MODIFIER LETTER END LOW TONE;MODIFIER LETTER SHELF;MODIFIER LETTER OPEN SHELF;",
        "MODIFIER LETTER LOW LEFT ARROW"]

/-- More combining marks. -/
def block0340 : NameBlock where
  first := 0x0340
  names :=
    String.join
      ["COMBINING GRAVE TONE MARK;COMBINING ACUTE TONE MARK;COMBINING GREEK PERISPOMENI;COMBINING GREEK ",
        "KORONIS;COMBINING GREEK DIALYTIKA TONOS;COMBINING GREEK YPOGEGRAMMENI;COMBINING BRIDGE ABOVE;",
        "COMBINING EQUALS SIGN BELOW;COMBINING DOUBLE VERTICAL LINE BELOW;COMBINING LEFT ANGLE BELOW;",
        "COMBINING NOT TILDE ABOVE;COMBINING HOMOTHETIC ABOVE;COMBINING ALMOST EQUAL TO ABOVE;COMBINING ",
        "LEFT RIGHT ARROW BELOW;COMBINING UPWARDS ARROW BELOW;COMBINING GRAPHEME JOINER;COMBINING RIGHT ",
        "ARROWHEAD ABOVE;COMBINING LEFT HALF RING ABOVE;COMBINING FERMATA;COMBINING X BELOW;COMBINING LEFT ",
        "ARROWHEAD BELOW;COMBINING RIGHT ARROWHEAD BELOW;COMBINING RIGHT ARROWHEAD AND UP ARROWHEAD BELOW;",
        "COMBINING RIGHT HALF RING ABOVE;COMBINING DOT ABOVE RIGHT;COMBINING ASTERISK BELOW;COMBINING ",
        "DOUBLE RING BELOW;COMBINING ZIGZAG ABOVE;COMBINING DOUBLE BREVE BELOW;COMBINING DOUBLE BREVE;",
        "COMBINING DOUBLE MACRON;COMBINING DOUBLE MACRON BELOW;COMBINING DOUBLE TILDE;COMBINING DOUBLE ",
        "INVERTED BREVE;COMBINING DOUBLE RIGHTWARDS ARROW BELOW;COMBINING LATIN SMALL LETTER A;COMBINING ",
        "LATIN SMALL LETTER E;COMBINING LATIN SMALL LETTER I;COMBINING LATIN SMALL LETTER O;COMBINING ",
        "LATIN SMALL LETTER U;COMBINING LATIN SMALL LETTER C;COMBINING LATIN SMALL LETTER D;COMBINING ",
        "LATIN SMALL LETTER H;COMBINING LATIN SMALL LETTER M;COMBINING LATIN SMALL LETTER R;COMBINING ",
        "LATIN SMALL LETTER T;COMBINING LATIN SMALL LETTER V;COMBINING LATIN SMALL LETTER X"]

/-- More Cyrillic letters. -/
def block0460 : NameBlock where
  first := 0x0460
  names :=
    String.join
      ["CYRILLIC CAPITAL LETTER OMEGA;CYRILLIC SMALL LETTER OMEGA;CYRILLIC CAPITAL LETTER YAT;CYRILLIC ",
        "SMALL LETTER YAT;CYRILLIC CAPITAL LETTER IOTIFIED E;CYRILLIC SMALL LETTER IOTIFIED E;CYRILLIC ",
        "CAPITAL LETTER LITTLE YUS;CYRILLIC SMALL LETTER LITTLE YUS;CYRILLIC CAPITAL LETTER IOTIFIED ",
        "LITTLE YUS;CYRILLIC SMALL LETTER IOTIFIED LITTLE YUS;CYRILLIC CAPITAL LETTER BIG YUS;CYRILLIC ",
        "SMALL LETTER BIG YUS;CYRILLIC CAPITAL LETTER IOTIFIED BIG YUS;CYRILLIC SMALL LETTER IOTIFIED BIG ",
        "YUS;CYRILLIC CAPITAL LETTER KSI;CYRILLIC SMALL LETTER KSI;CYRILLIC CAPITAL LETTER PSI;CYRILLIC ",
        "SMALL LETTER PSI;CYRILLIC CAPITAL LETTER FITA;CYRILLIC SMALL LETTER FITA;CYRILLIC CAPITAL LETTER ",
        "IZHITSA;CYRILLIC SMALL LETTER IZHITSA;CYRILLIC CAPITAL LETTER IZHITSA WITH DOUBLE GRAVE ACCENT;",
        "CYRILLIC SMALL LETTER IZHITSA WITH DOUBLE GRAVE ACCENT;CYRILLIC CAPITAL LETTER UK;CYRILLIC SMALL ",
        "LETTER UK;CYRILLIC CAPITAL LETTER ROUND OMEGA;CYRILLIC SMALL LETTER ROUND OMEGA;CYRILLIC CAPITAL ",
        "LETTER OMEGA WITH TITLO;CYRILLIC SMALL LETTER OMEGA WITH TITLO;CYRILLIC CAPITAL LETTER OT;",
        "CYRILLIC SMALL LETTER OT;CYRILLIC CAPITAL LETTER KOPPA;CYRILLIC SMALL LETTER KOPPA;CYRILLIC ",
        "THOUSANDS SIGN;COMBINING CYRILLIC TITLO;COMBINING CYRILLIC PALATALIZATION;COMBINING CYRILLIC ",
        "DASIA PNEUMATA;COMBINING CYRILLIC PSILI PNEUMATA;COMBINING CYRILLIC POKRYTIE;COMBINING CYRILLIC ",
        "HUNDRED THOUSANDS SIGN;COMBINING CYRILLIC MILLIONS SIGN;CYRILLIC CAPITAL LETTER SHORT I WITH TAIL;",
        "CYRILLIC SMALL LETTER SHORT I WITH TAIL;CYRILLIC CAPITAL LETTER SEMISOFT SIGN;CYRILLIC SMALL ",
        "LETTER SEMISOFT SIGN;CYRILLIC CAPITAL LETTER ER WITH TICK;CYRILLIC SMALL LETTER ER WITH TICK;",
        "CYRILLIC CAPITAL LETTER GHE WITH UPTURN;CYRILLIC SMALL LETTER GHE WITH UPTURN;CYRILLIC CAPITAL ",
        "LETTER GHE WITH STROKE;CYRILLIC SMALL LETTER GHE WITH STROKE;CYRILLIC CAPITAL LETTER GHE WITH ",
        "MIDDLE HOOK;CYRILLIC SMALL LETTER GHE WITH MIDDLE HOOK;CYRILLIC CAPITAL LETTER ZHE WITH DESCENDER;",
        "CYRILLIC SMALL LETTER ZHE WITH DESCENDER;CYRILLIC CAPITAL LETTER ZE WITH DESCENDER;CYRILLIC SMALL ",
        "LETTER ZE WITH DESCENDER;CYRILLIC CAPITAL LETTER KA WITH DESCENDER;CYRILLIC SMALL LETTER KA WITH ",
        "DESCENDER;CYRILLIC CAPITAL LETTER KA WITH VERTICAL STROKE;CYRILLIC SMALL LETTER KA WITH VERTICAL ",
        "STROKE;CYRILLIC CAPITAL LETTER KA WITH STROKE;CYRILLIC SMALL LETTER KA WITH STROKE;CYRILLIC ",
        "CAPITAL LETTER BASHKIR KA;CYRILLIC SMALL LETTER BASHKIR KA;CYRILLIC CAPITAL LETTER EN WITH ",
        "DESCENDER;CYRILLIC SMALL LETTER EN WITH DESCENDER;CYRILLIC CAPITAL LIGATURE EN GHE;CYRILLIC SMALL ",
        "LIGATURE EN GHE;CYRILLIC CAPITAL LETTER PE WITH MIDDLE HOOK;CYRILLIC SMALL LETTER PE WITH MIDDLE ",
        "HOOK;CYRILLIC CAPITAL LETTER ABKHASIAN HA;CYRILLIC SMALL LETTER ABKHASIAN HA;CYRILLIC CAPITAL ",
        "LETTER ES WITH DESCENDER;CYRILLIC SMALL LETTER ES WITH DESCENDER;CYRILLIC CAPITAL LETTER TE WITH ",
        "DESCENDER;CYRILLIC SMALL LETTER TE WITH DESCENDER;CYRILLIC CAPITAL LETTER STRAIGHT U;CYRILLIC ",
        "SMALL LETTER STRAIGHT U;CYRILLIC CAPITAL LETTER STRAIGHT U WITH STROKE;CYRILLIC SMALL LETTER ",
        "STRAIGHT U WITH STROKE;CYRILLIC CAPITAL LETTER HA WITH DESCENDER;CYRILLIC SMALL LETTER HA WITH ",
        "DESCENDER;CYRILLIC CAPITAL LIGATURE TE TSE;CYRILLIC SMALL LIGATURE TE TSE;CYRILLIC CAPITAL LETTER ",
        "CHE WITH DESCENDER;CYRILLIC SMALL LETTER CHE WITH DESCENDER;CYRILLIC CAPITAL LETTER CHE WITH ",
        "VERTICAL STROKE;CYRILLIC SMALL LETTER CHE WITH VERTICAL STROKE;CYRILLIC CAPITAL LETTER SHHA;",
        "CYRILLIC SMALL LETTER SHHA;CYRILLIC CAPITAL LETTER ABKHASIAN CHE;CYRILLIC SMALL LETTER ABKHASIAN ",
        "CHE;CYRILLIC CAPITAL LETTER ABKHASIAN CHE WITH DESCENDER;CYRILLIC SMALL LETTER ABKHASIAN CHE WITH ",
        "DESCENDER;CYRILLIC LETTER PALOCHKA;CYRILLIC CAPITAL LETTER ZHE WITH BREVE;CYRILLIC SMALL LETTER ",
        "ZHE WITH BREVE;CYRILLIC CAPITAL LETTER KA WITH HOOK;CYRILLIC SMALL LETTER KA WITH HOOK;CYRILLIC ",
        "CAPITAL LETTER EL WITH TAIL;CYRILLIC SMALL LETTER EL WITH TAIL;CYRILLIC CAPITAL LETTER EN WITH ",
        "HOOK;CYRILLIC SMALL LETTER EN WITH HOOK;CYRILLIC CAPITAL LETTER EN WITH TAIL;CYRILLIC SMALL ",
        "LETTER EN WITH TAIL;CYRILLIC CAPITAL LETTER KHAKASSIAN CHE;CYRILLIC SMALL LETTER KHAKASSIAN CHE;",
        "CYRILLIC CAPITAL LETTER EM WITH TAIL;CYRILLIC SMALL LETTER EM WITH TAIL;CYRILLIC SMALL LETTER ",
        "PALOCHKA;CYRILLIC CAPITAL LETTER A WITH BREVE;CYRILLIC SMALL LETTER A WITH BREVE;CYRILLIC CAPITAL ",
        "LETTER A WITH DIAERESIS;CYRILLIC SMALL LETTER A WITH DIAERESIS;CYRILLIC CAPITAL LIGATURE A IE;",
        "CYRILLIC SMALL LIGATURE A IE;CYRILLIC CAPITAL LETTER IE WITH BREVE;CYRILLIC SMALL LETTER IE WITH ",
        "BREVE;CYRILLIC CAPITAL LETTER SCHWA;CYRILLIC SMALL LETTER SCHWA;CYRILLIC CAPITAL LETTER SCHWA ",
        "WITH DIAERESIS;CYRILLIC SMALL LETTER SCHWA WITH DIAERESIS;CYRILLIC CAPITAL LETTER ZHE WITH ",
        "DIAERESIS;CYRILLIC SMALL LETTER ZHE WITH DIAERESIS;CYRILLIC CAPITAL LETTER ZE WITH DIAERESIS;",
        "CYRILLIC SMALL LETTER ZE WITH DIAERESIS;CYRILLIC CAPITAL LETTER ABKHASIAN DZE;CYRILLIC SMALL ",
        "LETTER ABKHASIAN DZE;CYRILLIC CAPITAL LETTER I WITH MACRON;CYRILLIC SMALL LETTER I WITH MACRON;",
        "CYRILLIC CAPITAL LETTER I WITH DIAERESIS;CYRILLIC SMALL LETTER I WITH DIAERESIS;CYRILLIC CAPITAL ",
        "LETTER O WITH DIAERESIS;CYRILLIC SMALL LETTER O WITH DIAERESIS;CYRILLIC CAPITAL LETTER BARRED O;",
        "CYRILLIC SMALL LETTER BARRED O;CYRILLIC CAPITAL LETTER BARRED O WITH DIAERESIS;CYRILLIC SMALL ",
        "LETTER BARRED O WITH DIAERESIS;CYRILLIC CAPITAL LETTER E WITH DIAERESIS;CYRILLIC SMALL LETTER E ",
        "WITH DIAERESIS;CYRILLIC CAPITAL LETTER U WITH MACRON;CYRILLIC SMALL LETTER U WITH MACRON;CYRILLIC ",
        "CAPITAL LETTER U WITH DIAERESIS;CYRILLIC SMALL LETTER U WITH DIAERESIS;CYRILLIC CAPITAL LETTER U ",
        "WITH DOUBLE ACUTE;CYRILLIC SMALL LETTER U WITH DOUBLE ACUTE;CYRILLIC CAPITAL LETTER CHE WITH ",
        "DIAERESIS;CYRILLIC SMALL LETTER CHE WITH DIAERESIS;CYRILLIC CAPITAL LETTER GHE WITH DESCENDER;",
        "CYRILLIC SMALL LETTER GHE WITH DESCENDER;CYRILLIC CAPITAL LETTER YERU WITH DIAERESIS;CYRILLIC ",
        "SMALL LETTER YERU WITH DIAERESIS;CYRILLIC CAPITAL LETTER GHE WITH STROKE AND HOOK;CYRILLIC SMALL ",
        "LETTER GHE WITH STROKE AND HOOK;CYRILLIC CAPITAL LETTER HA WITH HOOK;CYRILLIC SMALL LETTER HA ",
        "WITH HOOK;CYRILLIC CAPITAL LETTER HA WITH STROKE;CYRILLIC SMALL LETTER HA WITH STROKE;CYRILLIC ",
        "CAPITAL LETTER KOMI DE;CYRILLIC SMALL LETTER KOMI DE;CYRILLIC CAPITAL LETTER KOMI DJE;CYRILLIC ",
        "SMALL LETTER KOMI DJE;CYRILLIC CAPITAL LETTER KOMI ZJE;CYRILLIC SMALL LETTER KOMI ZJE;CYRILLIC ",
        "CAPITAL LETTER KOMI DZJE;CYRILLIC SMALL LETTER KOMI DZJE;CYRILLIC CAPITAL LETTER KOMI LJE;",
        "CYRILLIC SMALL LETTER KOMI LJE;CYRILLIC CAPITAL LETTER KOMI NJE;CYRILLIC SMALL LETTER KOMI NJE;",
        "CYRILLIC CAPITAL LETTER KOMI SJE;CYRILLIC SMALL LETTER KOMI SJE;CYRILLIC CAPITAL LETTER KOMI TJE;",
        "CYRILLIC SMALL LETTER KOMI TJE;CYRILLIC CAPITAL LETTER REVERSED ZE;CYRILLIC SMALL LETTER REVERSED ",
        "ZE;CYRILLIC CAPITAL LETTER EL WITH HOOK;CYRILLIC SMALL LETTER EL WITH HOOK;CYRILLIC CAPITAL ",
        "LETTER LHA;CYRILLIC SMALL LETTER LHA;CYRILLIC CAPITAL LETTER RHA;CYRILLIC SMALL LETTER RHA;",
        "CYRILLIC CAPITAL LETTER YAE;CYRILLIC SMALL LETTER YAE;CYRILLIC CAPITAL LETTER QA;CYRILLIC SMALL ",
        "LETTER QA;CYRILLIC CAPITAL LETTER WE;CYRILLIC SMALL LETTER WE;CYRILLIC CAPITAL LETTER ALEUT KA;",
        "CYRILLIC SMALL LETTER ALEUT KA;CYRILLIC CAPITAL LETTER EL WITH MIDDLE HOOK;CYRILLIC SMALL LETTER ",
        "EL WITH MIDDLE HOOK;CYRILLIC CAPITAL LETTER EN WITH MIDDLE HOOK;CYRILLIC SMALL LETTER EN WITH ",
        "MIDDLE HOOK;CYRILLIC CAPITAL LETTER PE WITH DESCENDER;CYRILLIC SMALL LETTER PE WITH DESCENDER;",
        "CYRILLIC CAPITAL LETTER SHHA WITH DESCENDER;CYRILLIC SMALL LETTER SHHA WITH DESCENDER;CYRILLIC ",
        "CAPITAL LETTER EN WITH LEFT HOOK;CYRILLIC SMALL LETTER EN WITH LEFT HOOK;CYRILLIC CAPITAL LETTER ",
        "DZZHE;CYRILLIC SMALL LETTER DZZHE;CYRILLIC CAPITAL LETTER DCHE;CYRILLIC SMALL LETTER DCHE;",
        "CYRILLIC CAPITAL LETTER EL WITH DESCENDER;CYRILLIC SMALL LETTER EL WITH DESCENDER"]

/-- Armenian. -/
def block0530 : NameBlock where
  first := 0x0530
  names :=
    String.join
      [";ARMENIAN CAPITAL LETTER AYB;ARMENIAN CAPITAL LETTER BEN;ARMENIAN CAPITAL LETTER GIM;ARMENIAN ",
        "CAPITAL LETTER DA;ARMENIAN CAPITAL LETTER ECH;ARMENIAN CAPITAL LETTER ZA;ARMENIAN CAPITAL LETTER ",
        "EH;ARMENIAN CAPITAL LETTER ET;ARMENIAN CAPITAL LETTER TO;ARMENIAN CAPITAL LETTER ZHE;ARMENIAN ",
        "CAPITAL LETTER INI;ARMENIAN CAPITAL LETTER LIWN;ARMENIAN CAPITAL LETTER XEH;ARMENIAN CAPITAL ",
        "LETTER CA;ARMENIAN CAPITAL LETTER KEN;ARMENIAN CAPITAL LETTER HO;ARMENIAN CAPITAL LETTER JA;",
        "ARMENIAN CAPITAL LETTER GHAD;ARMENIAN CAPITAL LETTER CHEH;ARMENIAN CAPITAL LETTER MEN;ARMENIAN ",
        "CAPITAL LETTER YI;ARMENIAN CAPITAL LETTER NOW;ARMENIAN CAPITAL LETTER SHA;ARMENIAN CAPITAL LETTER ",
        "VO;ARMENIAN CAPITAL LETTER CHA;ARMENIAN CAPITAL LETTER PEH;ARMENIAN CAPITAL LETTER JHEH;ARMENIAN ",
        "CAPITAL LETTER RA;ARMENIAN CAPITAL LETTER SEH;ARMENIAN CAPITAL LETTER VEW;ARMENIAN CAPITAL LETTER ",
        "TIWN;ARMENIAN CAPITAL LETTER REH;ARMENIAN CAPITAL LETTER CO;ARMENIAN CAPITAL LETTER YIWN;ARMENIAN ",
        "CAPITAL LETTER PIWR;ARMENIAN CAPITAL LETTER KEH;ARMENIAN CAPITAL LETTER OH;ARMENIAN CAPITAL ",
        "LETTER FEH;;;ARMENIAN MODIFIER LETTER LEFT HALF RING;ARMENIAN APOSTROPHE;ARMENIAN EMPHASIS MARK;",
        "ARMENIAN EXCLAMATION MARK;ARMENIAN COMMA;ARMENIAN QUESTION MARK;ARMENIAN ABBREVIATION MARK;",
        "ARMENIAN SMALL LETTER TURNED AYB;ARMENIAN SMALL LETTER AYB;ARMENIAN SMALL LETTER BEN;ARMENIAN ",
        "SMALL LETTER GIM;ARMENIAN SMALL LETTER DA;ARMENIAN SMALL LETTER ECH;ARMENIAN SMALL LETTER ZA;",
        "ARMENIAN SMALL LETTER EH;ARMENIAN SMALL LETTER ET;ARMENIAN SMALL LETTER TO;ARMENIAN SMALL LETTER ",
        "ZHE;ARMENIAN SMALL LETTER INI;ARMENIAN SMALL LETTER LIWN;ARMENIAN SMALL LETTER XEH;ARMENIAN SMALL ",
        "LETTER CA;ARMENIAN SMALL LETTER KEN;ARMENIAN SMALL LETTER HO;ARMENIAN SMALL LETTER JA;ARMENIAN ",
        "SMALL LETTER GHAD;ARMENIAN SMALL LETTER CHEH;ARMENIAN SMALL LETTER MEN;ARMENIAN SMALL LETTER YI;",
        "ARMENIAN SMALL LETTER NOW;ARMENIAN SMALL LETTER SHA;ARMENIAN SMALL LETTER VO;ARMENIAN SMALL ",
        "LETTER CHA;ARMENIAN SMALL LETTER PEH;ARMENIAN SMALL LETTER JHEH;ARMENIAN SMALL LETTER RA;ARMENIAN ",
        "SMALL LETTER SEH;ARMENIAN SMALL LETTER VEW;ARMENIAN SMALL LETTER TIWN;ARMENIAN SMALL LETTER REH;",
        "ARMENIAN SMALL LETTER CO;ARMENIAN SMALL LETTER YIWN;ARMENIAN SMALL LETTER PIWR;ARMENIAN SMALL ",
        "LETTER KEH;ARMENIAN SMALL LETTER OH;ARMENIAN SMALL LETTER FEH;ARMENIAN SMALL LIGATURE ECH YIWN;",
        "ARMENIAN SMALL LETTER YI WITH STROKE;ARMENIAN FULL STOP;ARMENIAN HYPHEN;;;RIGHT-FACING ARMENIAN ",
        "ETERNITY SIGN;LEFT-FACING ARMENIAN ETERNITY SIGN;ARMENIAN DRAM SIGN"]

/-- Hebrew. -/
def block0590 : NameBlock where
  first := 0x0590
  names :=
    String.join
      [";HEBREW ACCENT ETNAHTA;HEBREW ACCENT SEGOL;HEBREW ACCENT SHALSHELET;HEBREW ACCENT ZAQEF QATAN;",
        "HEBREW ACCENT ZAQEF GADOL;HEBREW ACCENT TIPEHA;HEBREW ACCENT REVIA;HEBREW ACCENT ZARQA;HEBREW ",
        "ACCENT PASHTA;HEBREW ACCENT YETIV;HEBREW ACCENT TEVIR;HEBREW ACCENT GERESH;HEBREW ACCENT GERESH ",
        "MUQDAM;HEBREW ACCENT GERSHAYIM;HEBREW ACCENT QARNEY PARA;HEBREW ACCENT TELISHA GEDOLA;HEBREW ",
        "ACCENT PAZER;HEBREW ACCENT ATNAH HAFUKH;HEBREW ACCENT MUNAH;HEBREW ACCENT MAHAPAKH;HEBREW ACCENT ",
        "MERKHA;HEBREW ACCENT MERKHA KEFULA;HEBREW ACCENT DARGA;HEBREW ACCENT QADMA;HEBREW ACCENT TELISHA ",
        "QETANA;HEBREW ACCENT YERAH BEN YOMO;HEBREW ACCENT OLE;HEBREW ACCENT ILUY;HEBREW ACCENT DEHI;",
        "HEBREW ACCENT ZINOR;HEBREW MARK MASORA CIRCLE;HEBREW POINT SHEVA;HEBREW POINT HATAF SEGOL;HEBREW ",
        "POINT HATAF PATAH;HEBREW POINT HATAF QAMATS;HEBREW POINT HIRIQ;HEBREW POINT TSERE;HEBREW POINT ",
        "SEGOL;HEBREW POINT PATAH;HEBREW POINT QAMATS;HEBREW POINT HOLAM;HEBREW POINT HOLAM HASER FOR VAV;",
        "HEBREW POINT QUBUTS;HEBREW POINT DAGESH OR MAPIQ;HEBREW POINT METEG;HEBREW PUNCTUATION MAQAF;",
        "HEBREW POINT RAFE;HEBREW PUNCTUATION PASEQ;HEBREW POINT SHIN DOT;HEBREW POINT SIN DOT;HEBREW ",
        "PUNCTUATION SOF PASUQ;HEBREW MARK UPPER DOT;HEBREW MARK LOWER DOT;HEBREW PUNCTUATION NUN HAFUKHA;",
        "HEBREW POINT QAMATS QATAN;;;;;;;;;HEBREW LETTER ALEF;HEBREW LETTER BET;HEBREW LETTER GIMEL;HEBREW ",
        "LETTER DALET;HEBREW LETTER HE;HEBREW LETTER VAV;HEBREW LETTER ZAYIN;HEBREW LETTER HET;HEBREW ",
        "LETTER TET;HEBREW LETTER YOD;HEBREW LETTER FINAL KAF;HEBREW LETTER KAF;HEBREW LETTER LAMED;HEBREW ",
        "LETTER FINAL MEM;HEBREW LETTER MEM;HEBREW LETTER FINAL NUN;HEBREW LETTER NUN;HEBREW LETTER SAMEKH;",
        "HEBREW LETTER AYIN;HEBREW LETTER FINAL PE;HEBREW LETTER PE;HEBREW LETTER FINAL TSADI;HEBREW ",
        "LETTER TSADI;HEBREW LETTER QOF;HEBREW LETTER RESH;HEBREW LETTER SHIN;HEBREW LETTER TAV;;;;;HEBREW ",
        "YOD TRIANGLE;HEBREW LIGATURE YIDDISH DOUBLE VAV;HEBREW LIGATURE YIDDISH VAV YOD;HEBREW LIGATURE ",
        "YIDDISH DOUBLE YOD;HEBREW PUNCTUATION GERESH;HEBREW PUNCTUATION GERSHAYIM"]

/-- Arabic. -/
def block0600 : NameBlock where
  first := 0x0600
  names :=
    String.join
      ["ARABIC NUMBER SIGN;ARABIC SIGN SANAH;ARABIC FOOTNOTE MARKER;ARABIC SIGN SAFHA;ARABIC SIGN SAMVAT;",
        "ARABIC NUMBER MARK ABOVE;ARABIC-INDIC CUBE ROOT;ARABIC-INDIC FOURTH ROOT;ARABIC RAY;ARABIC-INDIC ",
        "PER MILLE SIGN;ARABIC-INDIC PER TEN THOUSAND SIGN;AFGHANI SIGN;ARABIC COMMA;ARABIC DATE SEPARATOR;",
        "ARABIC POETIC VERSE SIGN;ARABIC SIGN MISRA;ARABIC SIGN SALLALLAHOU ALAYHE WASSALLAM;ARABIC SIGN ",
        "ALAYHE ASSALLAM;ARABIC SIGN RAHMATULLAH ALAYHE;ARABIC SIGN RADI ALLAHOU ANHU;ARABIC SIGN ",
        "TAKHALLUS;ARABIC SMALL HIGH TAH;ARABIC SMALL HIGH LIGATURE ALEF WITH LAM WITH YEH;ARABIC SMALL ",
        "HIGH ZAIN;ARABIC SMALL FATHA;ARABIC SMALL DAMMA;ARABIC SMALL KASRA;ARABIC SEMICOLON;ARABIC LETTER ",
        "MARK;ARABIC END OF TEXT MARK;ARABIC TRIPLE DOT PUNCTUATION MARK;ARABIC QUESTION MARK;ARABIC ",
        "LETTER KASHMIRI YEH;ARABIC LETTER HAMZA;ARABIC LETTER ALEF WITH MADDA ABOVE;ARABIC LETTER ALEF ",
        "WITH HAMZA ABOVE;ARABIC LETTER WAW WITH HAMZA ABOVE;ARABIC LETTER ALEF WITH HAMZA BELOW;ARABIC ",
        "LETTER YEH WITH HAMZA ABOVE;ARABIC LETTER ALEF;ARABIC LETTER BEH;ARABIC LETTER TEH MARBUTA;ARABIC ",
        "LETTER TEH;ARABIC LETTER THEH;ARABIC LETTER JEEM;ARABIC LETTER HAH;ARABIC LETTER KHAH;ARABIC ",
        "LETTER DAL;ARABIC LETTER THAL;ARABIC LETTER REH;ARABIC LETTER ZAIN;ARABIC LETTER SEEN;ARABIC ",
        "LETTER SHEEN;ARABIC LETTER SAD;ARABIC LETTER DAD;ARABIC LETTER TAH;ARABIC LETTER ZAH;ARABIC ",
        "LETTER AIN;ARABIC LETTER GHAIN;ARABIC LETTER KEHEH WITH TWO DOTS ABOVE;ARABIC LETTER KEHEH WITH ",
        "THREE DOTS BELOW;ARABIC LETTER FARSI YEH WITH INVERTED V;ARABIC LETTER FARSI YEH WITH TWO DOTS ",
        "ABOVE;ARABIC LETTER FARSI YEH WITH THREE DOTS ABOVE;ARABIC TATWEEL;ARABIC LETTER FEH;ARABIC ",
        "LETTER QAF;ARABIC LETTER KAF;ARABIC LETTER LAM;ARABIC LETTER MEEM;ARABIC LETTER NOON;ARABIC ",
        "LETTER HEH;ARABIC LETTER WAW;ARABIC LETTER ALEF MAKSURA;ARABIC LETTER YEH;ARABIC FATHATAN;ARABIC ",
        "DAMMATAN;ARABIC KASRATAN;ARABIC FATHA;ARABIC DAMMA;ARABIC KASRA;ARABIC SHADDA;ARABIC SUKUN;ARABIC ",
        "MADDAH ABOVE;ARABIC HAMZA ABOVE;ARABIC HAMZA BELOW;ARABIC SUBSCRIPT ALEF;ARABIC INVERTED DAMMA;",
        "ARABIC MARK NOON GHUNNA;ARABIC ZWARAKAY;ARABIC VOWEL SIGN SMALL V ABOVE;ARABIC VOWEL SIGN ",
        "INVERTED SMALL V ABOVE;ARABIC VOWEL SIGN DOT BELOW;ARABIC REVERSED DAMMA;ARABIC FATHA WITH TWO ",
        "DOTS;ARABIC WAVY HAMZA BELOW;ARABIC-INDIC DIGIT ZERO;ARABIC-INDIC DIGIT ONE;ARABIC-INDIC DIGIT ",
        "TWO;ARABIC-INDIC DIGIT THREE;ARABIC-INDIC DIGIT FOUR;ARABIC-INDIC DIGIT FIVE;ARABIC-INDIC DIGIT ",
        "SIX;ARABIC-INDIC DIGIT SEVEN;ARABIC-INDIC DIGIT EIGHT;ARABIC-INDIC DIGIT NINE;ARABIC PERCENT SIGN;",
        "ARABIC DECIMAL SEPARATOR;ARABIC THOUSANDS SEPARATOR;ARABIC FIVE POINTED STAR;ARABIC LETTER ",
        "DOTLESS BEH;ARABIC LETTER DOTLESS QAF;ARABIC LETTER SUPERSCRIPT ALEF;ARABIC LETTER ALEF WASLA;",
        "ARABIC LETTER ALEF WITH WAVY HAMZA ABOVE;ARABIC LETTER ALEF WITH WAVY HAMZA BELOW;ARABIC LETTER ",
        "HIGH HAMZA;ARABIC LETTER HIGH HAMZA ALEF;ARABIC LETTER HIGH HAMZA WAW;ARABIC LETTER U WITH HAMZA ",
        "ABOVE;ARABIC LETTER HIGH HAMZA YEH;ARABIC LETTER TTEH;ARABIC LETTER TTEHEH;ARABIC LETTER BEEH;",
        "ARABIC LETTER TEH WITH RING;ARABIC LETTER TEH WITH THREE DOTS ABOVE DOWNWARDS;ARABIC LETTER PEH;",
        "ARABIC LETTER TEHEH;ARABIC LETTER BEHEH;ARABIC LETTER HAH WITH HAMZA ABOVE;ARABIC LETTER HAH WITH ",
        "TWO DOTS VERTICAL ABOVE;ARABIC LETTER NYEH;ARABIC LETTER DYEH;ARABIC LETTER HAH WITH THREE DOTS ",
        "ABOVE;ARABIC LETTER TCHEH;ARABIC LETTER TCHEHEH;ARABIC LETTER DDAL;ARABIC LETTER DAL WITH RING;",
        "ARABIC LETTER DAL WITH DOT BELOW;ARABIC LETTER DAL WITH DOT BELOW AND SMALL TAH;ARABIC LETTER ",
        "DAHAL;ARABIC LETTER DDAHAL;ARABIC LETTER DUL;ARABIC LETTER DAL WITH THREE DOTS ABOVE DOWNWARDS;",
        "ARABIC LETTER DAL WITH FOUR DOTS ABOVE;ARABIC LETTER RREH;ARABIC LETTER REH WITH SMALL V;ARABIC ",
        "LETTER REH WITH RING;ARABIC LETTER REH WITH DOT BELOW;ARABIC LETTER REH WITH SMALL V BELOW;ARABIC ",
        "LETTER REH WITH DOT BELOW AND DOT ABOVE;ARABIC LETTER REH WITH TWO DOTS ABOVE;ARABIC LETTER JEH;",
        "ARABIC LETTER REH WITH FOUR DOTS ABOVE;ARABIC LETTER SEEN WITH DOT BELOW AND DOT ABOVE;ARABIC ",
        "LETTER SEEN WITH THREE DOTS BELOW;ARABIC LETTER SEEN WITH THREE DOTS BELOW AND THREE DOTS ABOVE;",
        "ARABIC LETTER SAD WITH TWO DOTS BELOW;ARABIC LETTER SAD WITH THREE DOTS ABOVE;ARABIC LETTER TAH ",
        "WITH THREE DOTS ABOVE;ARABIC LETTER AIN WITH THREE DOTS ABOVE;ARABIC LETTER DOTLESS FEH;ARABIC ",
        "LETTER FEH WITH DOT MOVED BELOW;ARABIC LETTER FEH WITH DOT BELOW;ARABIC LETTER VEH;ARABIC LETTER ",
        "FEH WITH THREE DOTS BELOW;ARABIC LETTER PEHEH;ARABIC LETTER QAF WITH DOT ABOVE;ARABIC LETTER QAF ",
        "WITH THREE DOTS ABOVE;ARABIC LETTER KEHEH;ARABIC LETTER SWASH KAF;ARABIC LETTER KAF WITH RING;",
        "ARABIC LETTER KAF WITH DOT ABOVE;ARABIC LETTER NG;ARABIC LETTER KAF WITH THREE DOTS BELOW;ARABIC ",
        "LETTER GAF;ARABIC LETTER GAF WITH RING;ARABIC LETTER NGOEH;ARABIC LETTER GAF WITH TWO DOTS BELOW;",
        "ARABIC LETTER GUEH;ARABIC LETTER GAF WITH THREE DOTS ABOVE;ARABIC LETTER LAM WITH SMALL V;ARABIC ",
        "LETTER LAM WITH DOT ABOVE;ARABIC LETTER LAM WITH THREE DOTS ABOVE;ARABIC LETTER LAM WITH THREE ",
        "DOTS BELOW;ARABIC LETTER NOON WITH DOT BELOW;ARABIC LETTER NOON GHUNNA;ARABIC LETTER RNOON;ARABIC ",
        "LETTER NOON WITH RING;ARABIC LETTER NOON WITH THREE DOTS ABOVE;ARABIC LETTER HEH DOACHASHMEE;",
        "ARABIC LETTER TCHEH WITH DOT ABOVE;ARABIC LETTER HEH WITH YEH ABOVE;ARABIC LETTER HEH GOAL;ARABIC ",
        "LETTER HEH GOAL WITH HAMZA ABOVE;ARABIC LETTER TEH MARBUTA GOAL;ARABIC LETTER WAW WITH RING;",
        "ARABIC LETTER KIRGHIZ OE;ARABIC LETTER OE;ARABIC LETTER U;ARABIC LETTER YU;ARABIC LETTER KIRGHIZ ",
        "YU;ARABIC LETTER WAW WITH TWO DOTS ABOVE;ARABIC LETTER VE;ARABIC LETTER FARSI YEH;ARABIC LETTER ",
        "YEH WITH TAIL;ARABIC LETTER YEH WITH SMALL V;ARABIC LETTER WAW WITH DOT ABOVE;ARABIC LETTER E;",
        "ARABIC LETTER YEH WITH THREE DOTS BELOW;ARABIC LETTER YEH BARREE;ARABIC LETTER YEH BARREE WITH ",
        "HAMZA ABOVE;ARABIC FULL STOP;ARABIC LETTER AE;ARABIC SMALL HIGH LIGATURE SAD WITH LAM WITH ALEF ",
        "MAKSURA;ARABIC SMALL HIGH LIGATURE QAF WITH LAM WITH ALEF MAKSURA;ARABIC SMALL HIGH MEEM INITIAL ",
        "FORM;ARABIC SMALL HIGH LAM ALEF;ARABIC SMALL HIGH JEEM;ARABIC SMALL HIGH THREE DOTS;ARABIC SMALL ",
        "HIGH SEEN;ARABIC END OF AYAH;ARABIC START OF RUB EL HIZB;ARABIC SMALL HIGH ROUNDED ZERO;ARABIC ",
        "SMALL HIGH UPRIGHT RECTANGULAR ZERO;ARABIC SMALL HIGH DOTLESS HEAD OF KHAH;ARABIC SMALL HIGH MEEM ",
        "ISOLATED FORM;ARABIC SMALL LOW SEEN;ARABIC SMALL HIGH MADDA;ARABIC SMALL WAW;ARABIC SMALL YEH;",
        "ARABIC SMALL HIGH YEH;ARABIC SMALL HIGH NOON;ARABIC PLACE OF SAJDAH;ARABIC EMPTY CENTRE LOW STOP;",
        "ARABIC EMPTY CENTRE HIGH STOP;ARABIC ROUNDED HIGH STOP WITH FILLED CENTRE;ARABIC SMALL LOW MEEM;",
        "ARABIC LETTER DAL WITH INVERTED V;ARABIC LETTER REH WITH INVERTED V;EXTENDED ARABIC-INDIC DIGIT ",
        "ZERO;EXTENDED ARABIC-INDIC DIGIT ONE;EXTENDED ARABIC-INDIC DIGIT TWO;EXTENDED ARABIC-INDIC DIGIT ",
        "THREE;EXTENDED ARABIC-INDIC DIGIT FOUR;EXTENDED ARABIC-INDIC DIGIT FIVE;EXTENDED ARABIC-INDIC ",
        "DIGIT SIX;EXTENDED ARABIC-INDIC DIGIT SEVEN;EXTENDED ARABIC-INDIC DIGIT EIGHT;EXTENDED ",
        "ARABIC-INDIC DIGIT NINE;ARABIC LETTER SHEEN WITH DOT BELOW;ARABIC LETTER DAD WITH DOT BELOW;",
        "ARABIC LETTER GHAIN WITH DOT BELOW;ARABIC SIGN SINDHI AMPERSAND;ARABIC SIGN SINDHI POSTPOSITION ",
        "MEN;ARABIC LETTER HEH WITH INVERTED V"]

/-- Latin with marks. -/
def block1E00 : NameBlock where
  first := 0x1E00
  names :=
    String.join
      ["LATIN CAPITAL LETTER A WITH RING BELOW;LATIN SMALL LETTER A WITH RING BELOW;LATIN CAPITAL LETTER ",
        "B WITH DOT ABOVE;LATIN SMALL LETTER B WITH DOT ABOVE;LATIN CAPITAL LETTER B WITH DOT BELOW;LATIN ",
        "SMALL LETTER B WITH DOT BELOW;LATIN CAPITAL LETTER B WITH LINE BELOW;LATIN SMALL LETTER B WITH ",
        "LINE BELOW;LATIN CAPITAL LETTER C WITH CEDILLA AND ACUTE;LATIN SMALL LETTER C WITH CEDILLA AND ",
        "ACUTE;LATIN CAPITAL LETTER D WITH DOT ABOVE;LATIN SMALL LETTER D WITH DOT ABOVE;LATIN CAPITAL ",
        "LETTER D WITH DOT BELOW;LATIN SMALL LETTER D WITH DOT BELOW;LATIN CAPITAL LETTER D WITH LINE ",
        "BELOW;LATIN SMALL LETTER D WITH LINE BELOW;LATIN CAPITAL LETTER D WITH CEDILLA;LATIN SMALL LETTER ",
        "D WITH CEDILLA;LATIN CAPITAL LETTER D WITH CIRCUMFLEX BELOW;LATIN SMALL LETTER D WITH CIRCUMFLEX ",
        "BELOW;LATIN CAPITAL LETTER E WITH MACRON AND GRAVE;LATIN SMALL LETTER E WITH MACRON AND GRAVE;",
        "LATIN CAPITAL LETTER E WITH MACRON AND ACUTE;LATIN SMALL LETTER E WITH MACRON AND ACUTE;LATIN ",
        "CAPITAL LETTER E WITH CIRCUMFLEX BELOW;LATIN SMALL LETTER E WITH CIRCUMFLEX BELOW;LATIN CAPITAL ",
        "LETTER E WITH TILDE BELOW;LATIN SMALL LETTER E WITH TILDE BELOW;LATIN CAPITAL LETTER E WITH ",
        "CEDILLA AND BREVE;LATIN SMALL LETTER E WITH CEDILLA AND BREVE;LATIN CAPITAL LETTER F WITH DOT ",
        "ABOVE;LATIN SMALL LETTER F WITH DOT ABOVE;LATIN CAPITAL LETTER G WITH MACRON;LATIN SMALL LETTER G ",
        "WITH MACRON;LATIN CAPITAL LETTER H WITH DOT ABOVE;LATIN SMALL LETTER H WITH DOT ABOVE;LATIN ",
        "CAPITAL LETTER H WITH DOT BELOW;LATIN SMALL LETTER H WITH DOT BELOW;LATIN CAPITAL LETTER H WITH ",
        "DIAERESIS;LATIN SMALL LETTER H WITH DIAERESIS;LATIN CAPITAL LETTER H WITH CEDILLA;LATIN SMALL ",
        "LETTER H WITH CEDILLA;LATIN CAPITAL LETTER H WITH BREVE BELOW;LATIN SMALL LETTER H WITH BREVE ",
        "BELOW;LATIN CAPITAL LETTER I WITH TILDE BELOW;LATIN SMALL LETTER I WITH TILDE BELOW;LATIN CAPITAL ",
        "LETTER I WITH DIAERESIS AND ACUTE;LATIN SMALL LETTER I WITH DIAERESIS AND ACUTE;LATIN CAPITAL ",
        "LETTER K WITH ACUTE;LATIN SMALL LETTER K WITH ACUTE;LATIN CAPITAL LETTER K WITH DOT BELOW;LATIN ",
        "SMALL LETTER K WITH DOT BELOW;LATIN CAPITAL LETTER K WITH LINE BELOW;LATIN SMALL LETTER K WITH ",
        "LINE BELOW;LATIN CAPITAL LETTER L WITH DOT BELOW;LATIN SMALL LETTER L WITH DOT BELOW;LATIN ",
        "CAPITAL LETTER L WITH DOT BELOW AND MACRON;LATIN SMALL LETTER L WITH DOT BELOW AND MACRON;LATIN ",
        "CAPITAL LETTER L WITH LINE BELOW;LATIN SMALL LETTER L WITH LINE BELOW;LATIN CAPITAL LETTER L WITH ",
        "CIRCUMFLEX BELOW;LATIN SMALL LETTER L WITH CIRCUMFLEX BELOW;LATIN CAPITAL LETTER M WITH ACUTE;",
        "LATIN SMALL LETTER M WITH ACUTE;LATIN CAPITAL LETTER M WITH DOT ABOVE;LATIN SMALL LETTER M WITH ",
        "DOT ABOVE;LATIN CAPITAL LETTER M WITH DOT BELOW;LATIN SMALL LETTER M WITH DOT BELOW;LATIN CAPITAL ",
        "LETTER N WITH DOT ABOVE;LATIN SMALL LETTER N WITH DOT ABOVE;LATIN CAPITAL LETTER N WITH DOT BELOW;",
        "LATIN SMALL LETTER N WITH DOT BELOW;LATIN CAPITAL LETTER N WITH LINE BELOW;LATIN SMALL LETTER N ",
        "WITH LINE BELOW;LATIN CAPITAL LETTER N WITH CIRCUMFLEX BELOW;LATIN SMALL LETTER N WITH CIRCUMFLEX ",
        "BELOW;LATIN CAPITAL LETTER O WITH TILDE AND ACUTE;LATIN SMALL LETTER O WITH TILDE AND ACUTE;LATIN ",
        "CAPITAL LETTER O WITH TILDE AND DIAERESIS;LATIN SMALL LETTER O WITH TILDE AND DIAERESIS;LATIN ",
        "CAPITAL LETTER O WITH MACRON AND GRAVE;LATIN SMALL LETTER O WITH MACRON AND GRAVE;LATIN CAPITAL ",
        "LETTER O WITH MACRON AND ACUTE;LATIN SMALL LETTER O WITH MACRON AND ACUTE;LATIN CAPITAL LETTER P ",
        "WITH ACUTE;LATIN SMALL LETTER P WITH ACUTE;LATIN CAPITAL LETTER P WITH DOT ABOVE;LATIN SMALL ",
        "LETTER P WITH DOT ABOVE;LATIN CAPITAL LETTER R WITH DOT ABOVE;LATIN SMALL LETTER R WITH DOT ABOVE;",
        "LATIN CAPITAL LETTER R WITH DOT BELOW;LATIN SMALL LETTER R WITH DOT BELOW;LATIN CAPITAL LETTER R ",
        "WITH DOT BELOW AND MACRON;LATIN SMALL LETTER R WITH DOT BELOW AND MACRON;LATIN CAPITAL LETTER R ",
        "WITH LINE BELOW;LATIN SMALL LETTER R WITH LINE BELOW;LATIN CAPITAL LETTER S WITH DOT ABOVE;LATIN ",
        "SMALL LETTER S WITH DOT ABOVE;LATIN CAPITAL LETTER S WITH DOT BELOW;LATIN SMALL LETTER S WITH DOT ",
        "BELOW;LATIN CAPITAL LETTER S WITH ACUTE AND DOT ABOVE;LATIN SMALL LETTER S WITH ACUTE AND DOT ",
        "ABOVE;LATIN CAPITAL LETTER S WITH CARON AND DOT ABOVE;LATIN SMALL LETTER S WITH CARON AND DOT ",
        "ABOVE;LATIN CAPITAL LETTER S WITH DOT BELOW AND DOT ABOVE;LATIN SMALL LETTER S WITH DOT BELOW AND ",
        "DOT ABOVE;LATIN CAPITAL LETTER T WITH DOT ABOVE;LATIN SMALL LETTER T WITH DOT ABOVE;LATIN CAPITAL ",
        "LETTER T WITH DOT BELOW;LATIN SMALL LETTER T WITH DOT BELOW;LATIN CAPITAL LETTER T WITH LINE ",
        "BELOW;LATIN SMALL LETTER T WITH LINE BELOW;LATIN CAPITAL LETTER T WITH CIRCUMFLEX BELOW;LATIN ",
        "SMALL LETTER T WITH CIRCUMFLEX BELOW;LATIN CAPITAL LETTER U WITH DIAERESIS BELOW;LATIN SMALL ",
        "LETTER U WITH DIAERESIS BELOW;LATIN CAPITAL LETTER U WITH TILDE BELOW;LATIN SMALL LETTER U WITH ",
        "TILDE BELOW;LATIN CAPITAL LETTER U WITH CIRCUMFLEX BELOW;LATIN SMALL LETTER U WITH CIRCUMFLEX ",
        "BELOW;LATIN CAPITAL LETTER U WITH TILDE AND ACUTE;LATIN SMALL LETTER U WITH TILDE AND ACUTE;LATIN ",
        "CAPITAL LETTER U WITH MACRON AND DIAERESIS;LATIN SMALL LETTER U WITH MACRON AND DIAERESIS;LATIN ",
        "CAPITAL LETTER V WITH TILDE;LATIN SMALL LETTER V WITH TILDE;LATIN CAPITAL LETTER V WITH DOT BELOW;",
        "LATIN SMALL LETTER V WITH DOT BELOW;LATIN CAPITAL LETTER W WITH GRAVE;LATIN SMALL LETTER W WITH ",
        "GRAVE;LATIN CAPITAL LETTER W WITH ACUTE;LATIN SMALL LETTER W WITH ACUTE;LATIN CAPITAL LETTER W ",
        "WITH DIAERESIS;LATIN SMALL LETTER W WITH DIAERESIS;LATIN CAPITAL LETTER W WITH DOT ABOVE;LATIN ",
        "SMALL LETTER W WITH DOT ABOVE;LATIN CAPITAL LETTER W WITH DOT BELOW;LATIN SMALL LETTER W WITH DOT ",
        "BELOW;LATIN CAPITAL LETTER X WITH DOT ABOVE;LATIN SMALL LETTER X WITH DOT ABOVE;LATIN CAPITAL ",
        "LETTER X WITH DIAERESIS;LATIN SMALL LETTER X WITH DIAERESIS;LATIN CAPITAL LETTER Y WITH DOT ABOVE;",
        "LATIN SMALL LETTER Y WITH DOT ABOVE;LATIN CAPITAL LETTER Z WITH CIRCUMFLEX;LATIN SMALL LETTER Z ",
        "WITH CIRCUMFLEX;LATIN CAPITAL LETTER Z WITH DOT BELOW;LATIN SMALL LETTER Z WITH DOT BELOW;LATIN ",
        "CAPITAL LETTER Z WITH LINE BELOW;LATIN SMALL LETTER Z WITH LINE BELOW;LATIN SMALL LETTER H WITH ",
        "LINE BELOW;LATIN SMALL LETTER T WITH DIAERESIS;LATIN SMALL LETTER W WITH RING ABOVE;LATIN SMALL ",
        "LETTER Y WITH RING ABOVE;LATIN SMALL LETTER A WITH RIGHT HALF RING;LATIN SMALL LETTER LONG S WITH ",
        "DOT ABOVE;LATIN SMALL LETTER LONG S WITH DIAGONAL STROKE;LATIN SMALL LETTER LONG S WITH HIGH ",
        "STROKE;LATIN CAPITAL LETTER SHARP S;LATIN SMALL LETTER DELTA;LATIN CAPITAL LETTER A WITH DOT ",
        "BELOW;LATIN SMALL LETTER A WITH DOT BELOW;LATIN CAPITAL LETTER A WITH HOOK ABOVE;LATIN SMALL ",
        "LETTER A WITH HOOK ABOVE;LATIN CAPITAL LETTER A WITH CIRCUMFLEX AND ACUTE;LATIN SMALL LETTER A ",
        "WITH CIRCUMFLEX AND ACUTE;LATIN CAPITAL LETTER A WITH CIRCUMFLEX AND GRAVE;LATIN SMALL LETTER A ",
        "WITH CIRCUMFLEX AND GRAVE;LATIN CAPITAL LETTER A WITH CIRCUMFLEX AND HOOK ABOVE;LATIN SMALL ",
        "LETTER A WITH CIRCUMFLEX AND HOOK ABOVE;LATIN CAPITAL LETTER A WITH CIRCUMFLEX AND TILDE;LATIN ",
        "SMALL LETTER A WITH CIRCUMFLEX AND TILDE;LATIN CAPITAL LETTER A WITH CIRCUMFLEX AND DOT BELOW;",
        "LATIN SMALL LETTER A WITH CIRCUMFLEX AND DOT BELOW;LATIN CAPITAL LETTER A WITH BREVE AND ACUTE;",
        "LATIN SMALL LETTER A WITH BREVE AND ACUTE;LATIN CAPITAL LETTER A WITH BREVE AND GRAVE;LATIN SMALL ",
        "LETTER A WITH BREVE AND GRAVE;LATIN CAPITAL LETTER A WITH BREVE AND HOOK ABOVE;LATIN SMALL LETTER ",
        "A WITH BREVE AND HOOK ABOVE;LATIN CAPITAL LETTER A WITH BREVE AND TILDE;LATIN SMALL LETTER A WITH ",
        "BREVE AND TILDE;LATIN CAPITAL LETTER A WITH BREVE AND DOT BELOW;LATIN SMALL LETTER A WITH BREVE ",
        "AND DOT BELOW;LATIN CAPITAL LETTER E WITH DOT BELOW;LATIN SMALL LETTER E WITH DOT BELOW;LATIN ",
        "CAPITAL LETTER E WITH HOOK ABOVE;LATIN SMALL LETTER E WITH HOOK ABOVE;LATIN CAPITAL LETTER E WITH ",
        "TILDE;LATIN SMALL LETTER E WITH TILDE;LATIN CAPITAL LETTER E WITH CIRCUMFLEX AND ACUTE;LATIN ",
        "SMALL LETTER E WITH CIRCUMFLEX AND ACUTE;LATIN CAPITAL LETTER E WITH CIRCUMFLEX AND GRAVE;LATIN ",
        "SMALL LETTER E WITH CIRCUMFLEX AND GRAVE;LATIN CAPITAL LETTER E WITH CIRCUMFLEX AND HOOK ABOVE;",
        "LATIN SMALL LETTER E WITH CIRCUMFLEX AND HOOK ABOVE;LATIN CAPITAL LETTER E WITH CIRCUMFLEX AND ",
        "TILDE;LATIN SMALL LETTER E WITH CIRCUMFLEX AND TILDE;LATIN CAPITAL LETTER E WITH CIRCUMFLEX AND ",
        "DOT BELOW;LATIN SMALL LETTER E WITH CIRCUMFLEX AND DOT BELOW;LATIN CAPITAL LETTER I WITH HOOK ",
        "ABOVE;LATIN SMALL LETTER I WITH HOOK ABOVE;LATIN CAPITAL LETTER I WITH DOT BELOW;LATIN SMALL ",
        "LETTER I WITH DOT BELOW;LATIN CAPITAL LETTER O WITH DOT BELOW;LATIN SMALL LETTER O WITH DOT BELOW;",
        "LATIN CAPITAL LETTER O WITH HOOK ABOVE;LATIN SMALL LETTER O WITH HOOK ABOVE;LATIN CAPITAL LETTER ",
        "O WITH CIRCUMFLEX AND ACUTE;LATIN SMALL LETTER O WITH CIRCUMFLEX AND ACUTE;LATIN CAPITAL LETTER O ",
        "WITH CIRCUMFLEX AND GRAVE;LATIN SMALL LETTER O WITH CIRCUMFLEX AND GRAVE;LATIN CAPITAL LETTER O ",
        "WITH CIRCUMFLEX AND HOOK ABOVE;LATIN SMALL LETTER O WITH CIRCUMFLEX AND HOOK ABOVE;LATIN CAPITAL ",
        "LETTER O WITH CIRCUMFLEX AND TILDE;LATIN SMALL LETTER O WITH CIRCUMFLEX AND TILDE;LATIN CAPITAL ",
        "LETTER O WITH CIRCUMFLEX AND DOT BELOW;LATIN SMALL LETTER O WITH CIRCUMFLEX AND DOT BELOW;LATIN ",
        "CAPITAL LETTER O WITH HORN AND ACUTE;LATIN SMALL LETTER O WITH HORN AND ACUTE;LATIN CAPITAL ",
        "LETTER O WITH HORN AND GRAVE;LATIN SMALL LETTER O WITH HORN AND GRAVE;LATIN CAPITAL LETTER O WITH ",
        "HORN AND HOOK ABOVE;LATIN SMALL LETTER O WITH HORN AND HOOK ABOVE;LATIN CAPITAL LETTER O WITH ",
        "HORN AND TILDE;LATIN SMALL LETTER O WITH HORN AND TILDE;LATIN CAPITAL LETTER O WITH HORN AND DOT ",
        "BELOW;LATIN SMALL LETTER O WITH HORN AND DOT BELOW;LATIN CAPITAL LETTER U WITH DOT BELOW;LATIN ",
        "SMALL LETTER U WITH DOT BELOW;LATIN CAPITAL LETTER U WITH HOOK ABOVE;LATIN SMALL LETTER U WITH ",
        "HOOK ABOVE;LATIN CAPITAL LETTER U WITH HORN AND ACUTE;LATIN SMALL LETTER U WITH HORN AND ACUTE;",
        "LATIN CAPITAL LETTER U WITH HORN AND GRAVE;LATIN SMALL LETTER U WITH HORN AND GRAVE;LATIN CAPITAL ",
        "LETTER U WITH HORN AND HOOK ABOVE;LATIN SMALL LETTER U WITH HORN AND HOOK ABOVE;LATIN CAPITAL ",
        "LETTER U WITH HORN AND TILDE;LATIN SMALL LETTER U WITH HORN AND TILDE;LATIN CAPITAL LETTER U WITH ",
        "HORN AND DOT BELOW;LATIN SMALL LETTER U WITH HORN AND DOT BELOW;LATIN CAPITAL LETTER Y WITH GRAVE;",
        "LATIN SMALL LETTER Y WITH GRAVE;LATIN CAPITAL LETTER Y WITH DOT BELOW;LATIN SMALL LETTER Y WITH ",
        "DOT BELOW;LATIN CAPITAL LETTER Y WITH HOOK ABOVE;LATIN SMALL LETTER Y WITH HOOK ABOVE;LATIN ",
        "CAPITAL LETTER Y WITH TILDE;LATIN SMALL LETTER Y WITH TILDE;LATIN CAPITAL LETTER MIDDLE-WELSH LL;",
        "LATIN SMALL LETTER MIDDLE-WELSH LL;LATIN CAPITAL LETTER MIDDLE-WELSH V;LATIN SMALL LETTER ",
        "MIDDLE-WELSH V;LATIN CAPITAL LETTER Y WITH LOOP;LATIN SMALL LETTER Y WITH LOOP"]

/-- Greek with marks. -/
def block1F00 : NameBlock where
  first := 0x1F00
  names :=
    String.join
      ["GREEK SMALL LETTER ALPHA WITH PSILI;GREEK SMALL LETTER ALPHA WITH DASIA;GREEK SMALL LETTER ALPHA ",
        "WITH PSILI AND VARIA;GREEK SMALL LETTER ALPHA WITH DASIA AND VARIA;GREEK SMALL LETTER ALPHA WITH ",
        "PSILI AND OXIA;GREEK SMALL LETTER ALPHA WITH DASIA AND OXIA;GREEK SMALL LETTER ALPHA WITH PSILI ",
        "AND PERISPOMENI;GREEK SMALL LETTER ALPHA WITH DASIA AND PERISPOMENI;GREEK CAPITAL LETTER ALPHA ",
        "WITH PSILI;GREEK CAPITAL LETTER ALPHA WITH DASIA;GREEK CAPITAL LETTER ALPHA WITH PSILI AND VARIA;",
        "GREEK CAPITAL LETTER ALPHA WITH DASIA AND VARIA;GREEK CAPITAL LETTER ALPHA WITH PSILI AND OXIA;",
        "GREEK CAPITAL LETTER ALPHA WITH DASIA AND OXIA;GREEK CAPITAL LETTER ALPHA WITH PSILI AND ",
        "PERISPOMENI;GREEK CAPITAL LETTER ALPHA WITH DASIA AND PERISPOMENI;GREEK SMALL LETTER EPSILON WITH ",
        "PSILI;GREEK SMALL LETTER EPSILON WITH DASIA;GREEK SMALL LETTER EPSILON WITH PSILI AND VARIA;GREEK ",
        "SMALL LETTER EPSILON WITH DASIA AND VARIA;GREEK SMALL LETTER EPSILON WITH PSILI AND OXIA;GREEK ",
        "SMALL LETTER EPSILON WITH DASIA AND OXIA;;;GREEK CAPITAL LETTER EPSILON WITH PSILI;GREEK CAPITAL ",
        "LETTER EPSILON WITH DASIA;GREEK CAPITAL LETTER EPSILON WITH PSILI AND VARIA;GREEK CAPITAL LETTER ",
        "EPSILON WITH DASIA AND VARIA;GREEK CAPITAL LETTER EPSILON WITH PSILI AND OXIA;GREEK CAPITAL ",
        "LETTER EPSILON WITH DASIA AND OXIA;;;GREEK SMALL LETTER ETA WITH PSILI;GREEK SMALL LETTER ETA ",
        "WITH DASIA;GREEK SMALL LETTER ETA WITH PSILI AND VARIA;GREEK SMALL LETTER ETA WITH DASIA AND ",
        "VARIA;GREEK SMALL LETTER ETA WITH PSILI AND OXIA;GREEK SMALL LETTER ETA WITH DASIA AND OXIA;GREEK ",
        "SMALL LETTER ETA WITH PSILI AND PERISPOMENI;GREEK SMALL LETTER ETA WITH DASIA AND PERISPOMENI;",
        "GREEK CAPITAL LETTER ETA WITH PSILI;GREEK CAPITAL LETTER ETA WITH DASIA;GREEK CAPITAL LETTER ETA ",
        "WITH PSILI AND VARIA;GREEK CAPITAL LETTER ETA WITH DASIA AND VARIA;GREEK CAPITAL LETTER ETA WITH ",
        "PSILI AND OXIA;GREEK CAPITAL LETTER ETA WITH DASIA AND OXIA;GREEK CAPITAL LETTER ETA WITH PSILI ",
        "AND PERISPOMENI;GREEK CAPITAL LETTER ETA WITH DASIA AND PERISPOMENI;GREEK SMALL LETTER IOTA WITH ",
        "PSILI;GREEK SMALL LETTER IOTA WITH DASIA;GREEK SMALL LETTER IOTA WITH PSILI AND VARIA;GREEK SMALL ",
        "LETTER IOTA WITH DASIA AND VARIA;GREEK SMALL LETTER IOTA WITH PSILI AND OXIA;GREEK SMALL LETTER ",
        "IOTA WITH DASIA AND OXIA;GREEK SMALL LETTER IOTA WITH PSILI AND PERISPOMENI;GREEK SMALL LETTER ",
        "IOTA WITH DASIA AND PERISPOMENI;GREEK CAPITAL LETTER IOTA WITH PSILI;GREEK CAPITAL LETTER IOTA ",
        "WITH DASIA;GREEK CAPITAL LETTER IOTA WITH PSILI AND VARIA;GREEK CAPITAL LETTER IOTA WITH DASIA ",
        "AND VARIA;GREEK CAPITAL LETTER IOTA WITH PSILI AND OXIA;GREEK CAPITAL LETTER IOTA WITH DASIA AND ",
        "OXIA;GREEK CAPITAL LETTER IOTA WITH PSILI AND PERISPOMENI;GREEK CAPITAL LETTER IOTA WITH DASIA ",
        "AND PERISPOMENI;GREEK SMALL LETTER OMICRON WITH PSILI;GREEK SMALL LETTER OMICRON WITH DASIA;GREEK ",
        "SMALL LETTER OMICRON WITH PSILI AND VARIA;GREEK SMALL LETTER OMICRON WITH DASIA AND VARIA;GREEK ",
        "SMALL LETTER OMICRON WITH PSILI AND OXIA;GREEK SMALL LETTER OMICRON WITH DASIA AND OXIA;;;GREEK ",
        "CAPITAL LETTER OMICRON WITH PSILI;GREEK CAPITAL LETTER OMICRON WITH DASIA;GREEK CAPITAL LETTER ",
        "OMICRON WITH PSILI AND VARIA;GREEK CAPITAL LETTER OMICRON WITH DASIA AND VARIA;GREEK CAPITAL ",
        "LETTER OMICRON WITH PSILI AND OXIA;GREEK CAPITAL LETTER OMICRON WITH DASIA AND OXIA;;;GREEK SMALL ",
        "LETTER UPSILON WITH PSILI;GREEK SMALL LETTER UPSILON WITH DASIA;GREEK SMALL LETTER UPSILON WITH ",
        "PSILI AND VARIA;GREEK SMALL LETTER UPSILON WITH DASIA AND VARIA;GREEK SMALL LETTER UPSILON WITH ",
        "PSILI AND OXIA;GREEK SMALL LETTER UPSILON WITH DASIA AND OXIA;GREEK SMALL LETTER UPSILON WITH ",
        "PSILI AND PERISPOMENI;GREEK SMALL LETTER UPSILON WITH DASIA AND PERISPOMENI;;GREEK CAPITAL LETTER ",
        "UPSILON WITH DASIA;;GREEK CAPITAL LETTER UPSILON WITH DASIA AND VARIA;;GREEK CAPITAL LETTER ",
        "UPSILON WITH DASIA AND OXIA;;GREEK CAPITAL LETTER UPSILON WITH DASIA AND PERISPOMENI;GREEK SMALL ",
        "LETTER OMEGA WITH PSILI;GREEK SMALL LETTER OMEGA WITH DASIA;GREEK SMALL LETTER OMEGA WITH PSILI ",
        "AND VARIA;GREEK SMALL LETTER OMEGA WITH DASIA AND VARIA;GREEK SMALL LETTER OMEGA WITH PSILI AND ",
        "OXIA;GREEK SMALL LETTER OMEGA WITH DASIA AND OXIA;GREEK SMALL LETTER OMEGA WITH PSILI AND ",
        "PERISPOMENI;GREEK SMALL LETTER OMEGA WITH DASIA AND PERISPOMENI;GREEK CAPITAL LETTER OMEGA WITH ",
        "PSILI;GREEK CAPITAL LETTER OMEGA WITH DASIA;GREEK CAPITAL LETTER OMEGA WITH PSILI AND VARIA;GREEK ",
        "CAPITAL LETTER OMEGA WITH DASIA AND VARIA;GREEK CAPITAL LETTER OMEGA WITH PSILI AND OXIA;GREEK ",
        "CAPITAL LETTER OMEGA WITH DASIA AND OXIA;GREEK CAPITAL LETTER OMEGA WITH PSILI AND PERISPOMENI;",
        "GREEK CAPITAL LETTER OMEGA WITH DASIA AND PERISPOMENI;GREEK SMALL LETTER ALPHA WITH VARIA;GREEK ",
        "SMALL LETTER ALPHA WITH OXIA;GREEK SMALL LETTER EPSILON WITH VARIA;GREEK SMALL LETTER EPSILON ",
        "WITH OXIA;GREEK SMALL LETTER ETA WITH VARIA;GREEK SMALL LETTER ETA WITH OXIA;GREEK SMALL LETTER ",
        "IOTA WITH VARIA;GREEK SMALL LETTER IOTA WITH OXIA;GREEK SMALL LETTER OMICRON WITH VARIA;GREEK ",
        "SMALL LETTER OMICRON WITH OXIA;GREEK SMALL LETTER UPSILON WITH VARIA;GREEK SMALL LETTER UPSILON ",
        "WITH OXIA;GREEK SMALL LETTER OMEGA WITH VARIA;GREEK SMALL LETTER OMEGA WITH OXIA;;;GREEK SMALL ",
        "LETTER ALPHA WITH PSILI AND YPOGEGRAMMENI;GREEK SMALL LETTER ALPHA WITH DASIA AND YPOGEGRAMMENI;",
        "GREEK SMALL LETTER ALPHA WITH PSILI AND VARIA AND YPOGEGRAMMENI;GREEK SMALL LETTER ALPHA WITH ",
        "DASIA AND VARIA AND YPOGEGRAMMENI;GREEK SMALL LETTER ALPHA WITH PSILI AND OXIA AND YPOGEGRAMMENI;",
        "GREEK SMALL LETTER ALPHA WITH DASIA AND OXIA AND YPOGEGRAMMENI;GREEK SMALL LETTER ALPHA WITH ",
        "PSILI AND PERISPOMENI AND YPOGEGRAMMENI;GREEK SMALL LETTER ALPHA WITH DASIA AND PERISPOMENI AND ",
        "YPOGEGRAMMENI;GREEK CAPITAL LETTER ALPHA WITH PSILI AND PROSGEGRAMMENI;GREEK CAPITAL LETTER ALPHA ",
        "WITH DASIA AND PROSGEGRAMMENI;GREEK CAPITAL LETTER ALPHA WITH PSILI AND VARIA AND PROSGEGRAMMENI;",
        "GREEK CAPITAL LETTER ALPHA WITH DASIA AND VARIA AND PROSGEGRAMMENI;GREEK CAPITAL LETTER ALPHA ",
        "WITH PSILI AND OXIA AND PROSGEGRAMMENI;GREEK CAPITAL LETTER ALPHA WITH DASIA AND OXIA AND ",
        "PROSGEGRAMMENI;GREEK CAPITAL LETTER ALPHA WITH PSILI AND PERISPOMENI AND PROSGEGRAMMENI;GREEK ",
        "CAPITAL LETTER ALPHA WITH DASIA AND PERISPOMENI AND PROSGEGRAMMENI;GREEK SMALL LETTER ETA WITH ",
        "PSILI AND YPOGEGRAMMENI;GREEK SMALL LETTER ETA WITH DASIA AND YPOGEGRAMMENI;GREEK SMALL LETTER ",
        "ETA WITH PSILI AND VARIA AND YPOGEGRAMMENI;GREEK SMALL LETTER ETA WITH DASIA AND VARIA AND ",
        "YPOGEGRAMMENI;GREEK SMALL LETTER ETA WITH PSILI AND OXIA AND YPOGEGRAMMENI;GREEK SMALL LETTER ETA ",
        "WITH DASIA AND OXIA AND YPOGEGRAMMENI;GREEK SMALL LETTER ETA WITH PSILI AND PERISPOMENI AND ",
        "YPOGEGRAMMENI;GREEK SMALL LETTER ETA WITH DASIA AND PERISPOMENI AND YPOGEGRAMMENI;GREEK CAPITAL ",
        "LETTER ETA WITH PSILI AND PROSGEGRAMMENI;GREEK CAPITAL LETTER ETA WITH DASIA AND PROSGEGRAMMENI;",
        "GREEK CAPITAL LETTER ETA WITH PSILI AND VARIA AND PROSGEGRAMMENI;GREEK CAPITAL LETTER ETA WITH ",
        "DASIA AND VARIA AND PROSGEGRAMMENI;GREEK CAPITAL LETTER ETA WITH PSILI AND OXIA AND ",
        "PROSGEGRAMMENI;GREEK CAPITAL LETTER ETA WITH DASIA AND OXIA AND PROSGEGRAMMENI;GREEK CAPITAL ",
        "LETTER ETA WITH PSILI AND PERISPOMENI AND PROSGEGRAMMENI;GREEK CAPITAL LETTER ETA WITH DASIA AND ",
        "PERISPOMENI AND PROSGEGRAMMENI;GREEK SMALL LETTER OMEGA WITH PSILI AND YPOGEGRAMMENI;GREEK SMALL ",
        "LETTER OMEGA WITH DASIA AND YPOGEGRAMMENI;GREEK SMALL LETTER OMEGA WITH PSILI AND VARIA AND ",
        "YPOGEGRAMMENI;GREEK SMALL LETTER OMEGA WITH DASIA AND VARIA AND YPOGEGRAMMENI;GREEK SMALL LETTER ",
        "OMEGA WITH PSILI AND OXIA AND YPOGEGRAMMENI;GREEK SMALL LETTER OMEGA WITH DASIA AND OXIA AND ",
        "YPOGEGRAMMENI;GREEK SMALL LETTER OMEGA WITH PSILI AND PERISPOMENI AND YPOGEGRAMMENI;GREEK SMALL ",
        "LETTER OMEGA WITH DASIA AND PERISPOMENI AND YPOGEGRAMMENI;GREEK CAPITAL LETTER OMEGA WITH PSILI ",
        "AND PROSGEGRAMMENI;GREEK CAPITAL LETTER OMEGA WITH DASIA AND PROSGEGRAMMENI;GREEK CAPITAL LETTER ",
        "OMEGA WITH PSILI AND VARIA AND PROSGEGRAMMENI;GREEK CAPITAL LETTER OMEGA WITH DASIA AND VARIA AND ",
        "PROSGEGRAMMENI;GREEK CAPITAL LETTER OMEGA WITH PSILI AND OXIA AND PROSGEGRAMMENI;GREEK CAPITAL ",
        "LETTER OMEGA WITH DASIA AND OXIA AND PROSGEGRAMMENI;GREEK CAPITAL LETTER OMEGA WITH PSILI AND ",
        "PERISPOMENI AND PROSGEGRAMMENI;GREEK CAPITAL LETTER OMEGA WITH DASIA AND PERISPOMENI AND ",
        "PROSGEGRAMMENI;GREEK SMALL LETTER ALPHA WITH VRACHY;GREEK SMALL LETTER ALPHA WITH MACRON;GREEK ",
        "SMALL LETTER ALPHA WITH VARIA AND YPOGEGRAMMENI;GREEK SMALL LETTER ALPHA WITH YPOGEGRAMMENI;GREEK ",
        "SMALL LETTER ALPHA WITH OXIA AND YPOGEGRAMMENI;;GREEK SMALL LETTER ALPHA WITH PERISPOMENI;GREEK ",
        "SMALL LETTER ALPHA WITH PERISPOMENI AND YPOGEGRAMMENI;GREEK CAPITAL LETTER ALPHA WITH VRACHY;",
        "GREEK CAPITAL LETTER ALPHA WITH MACRON;GREEK CAPITAL LETTER ALPHA WITH VARIA;GREEK CAPITAL LETTER ",
        "ALPHA WITH OXIA;GREEK CAPITAL LETTER ALPHA WITH PROSGEGRAMMENI;GREEK KORONIS;GREEK PROSGEGRAMMENI;",
        "GREEK PSILI;GREEK PERISPOMENI;GREEK DIALYTIKA AND PERISPOMENI;GREEK SMALL LETTER ETA WITH VARIA ",
        "AND YPOGEGRAMMENI;GREEK SMALL LETTER ETA WITH YPOGEGRAMMENI;GREEK SMALL LETTER ETA WITH OXIA AND ",
        "YPOGEGRAMMENI;;GREEK SMALL LETTER ETA WITH PERISPOMENI;GREEK SMALL LETTER ETA WITH PERISPOMENI ",
        "AND YPOGEGRAMMENI;GREEK CAPITAL LETTER EPSILON WITH VARIA;GREEK CAPITAL LETTER EPSILON WITH OXIA;",
        "GREEK CAPITAL LETTER ETA WITH VARIA;GREEK CAPITAL LETTER ETA WITH OXIA;GREEK CAPITAL LETTER ETA ",
        "WITH PROSGEGRAMMENI;GREEK PSILI AND VARIA;GREEK PSILI AND OXIA;GREEK PSILI AND PERISPOMENI;GREEK ",
        "SMALL LETTER IOTA WITH VRACHY;GREEK SMALL LETTER IOTA WITH MACRON;GREEK SMALL LETTER IOTA WITH ",
        "DIALYTIKA AND VARIA;GREEK SMALL LETTER IOTA WITH DIALYTIKA AND OXIA;;;GREEK SMALL LETTER IOTA ",
        "WITH PERISPOMENI;GREEK SMALL LETTER IOTA WITH DIALYTIKA AND PERISPOMENI;GREEK CAPITAL LETTER IOTA ",
        "WITH VRACHY;GREEK CAPITAL LETTER IOTA WITH MACRON;GREEK CAPITAL LETTER IOTA WITH VARIA;GREEK ",
        "CAPITAL LETTER IOTA WITH OXIA;;GREEK DASIA AND VARIA;GREEK DASIA AND OXIA;GREEK DASIA AND ",
        "PERISPOMENI;GREEK SMALL LETTER UPSILON WITH VRACHY;GREEK SMALL LETTER UPSILON WITH MACRON;GREEK ",
        "SMALL LETTER UPSILON WITH DIALYTIKA AND VARIA;GREEK SMALL LETTER UPSILON WITH DIALYTIKA AND OXIA;",
        "GREEK SMALL LETTER RHO WITH PSILI;GREEK SMALL LETTER RHO WITH DASIA;GREEK SMALL LETTER UPSILON ",
        "WITH PERISPOMENI;GREEK SMALL LETTER UPSILON WITH DIALYTIKA AND PERISPOMENI;GREEK CAPITAL LETTER ",
        "UPSILON WITH VRACHY;GREEK CAPITAL LETTER UPSILON WITH MACRON;GREEK CAPITAL LETTER UPSILON WITH ",
        "VARIA;GREEK CAPITAL LETTER UPSILON WITH OXIA;GREEK CAPITAL LETTER RHO WITH DASIA;GREEK DIALYTIKA ",
        "AND VARIA;GREEK DIALYTIKA AND OXIA;GREEK VARIA;;;GREEK SMALL LETTER OMEGA WITH VARIA AND ",
        "YPOGEGRAMMENI;GREEK SMALL LETTER OMEGA WITH YPOGEGRAMMENI;GREEK SMALL LETTER OMEGA WITH OXIA AND ",
        "YPOGEGRAMMENI;;GREEK SMALL LETTER OMEGA WITH PERISPOMENI;GREEK SMALL LETTER OMEGA WITH ",
        "PERISPOMENI AND YPOGEGRAMMENI;GREEK CAPITAL LETTER OMICRON WITH VARIA;GREEK CAPITAL LETTER ",
        "OMICRON WITH OXIA;GREEK CAPITAL LETTER OMEGA WITH VARIA;GREEK CAPITAL LETTER OMEGA WITH OXIA;",
        "GREEK CAPITAL LETTER OMEGA WITH PROSGEGRAMMENI;GREEK OXIA;GREEK DASIA"]

/-- More operators. -/
def block228F : NameBlock where
  first := 0x228F
  names :=
    String.join
      ["SQUARE IMAGE OF;SQUARE ORIGINAL OF;SQUARE IMAGE OF OR EQUAL TO;SQUARE ORIGINAL OF OR EQUAL TO;",
        "SQUARE CAP;SQUARE CUP;CIRCLED PLUS;CIRCLED MINUS;CIRCLED TIMES;CIRCLED DIVISION SLASH;CIRCLED DOT ",
        "OPERATOR;CIRCLED RING OPERATOR;CIRCLED ASTERISK OPERATOR;CIRCLED EQUALS;CIRCLED DASH;SQUARED PLUS;",
        "SQUARED MINUS;SQUARED TIMES;SQUARED DOT OPERATOR;RIGHT TACK;LEFT TACK;DOWN TACK;UP TACK;ASSERTION;",
        "MODELS;TRUE;FORCES;TRIPLE VERTICAL BAR RIGHT TURNSTILE;DOUBLE VERTICAL BAR DOUBLE RIGHT TURNSTILE;",
        "DOES NOT PROVE;NOT TRUE;DOES NOT FORCE;NEGATED DOUBLE VERTICAL BAR DOUBLE RIGHT TURNSTILE;",
        "PRECEDES UNDER RELATION;SUCCEEDS UNDER RELATION;NORMAL SUBGROUP OF;CONTAINS AS NORMAL SUBGROUP;",
        "NORMAL SUBGROUP OF OR EQUAL TO;CONTAINS AS NORMAL SUBGROUP OR EQUAL TO;ORIGINAL OF;IMAGE OF;",
        "MULTIMAP;HERMITIAN CONJUGATE MATRIX;INTERCALATE;XOR;NAND;NOR;RIGHT ANGLE WITH ARC;RIGHT TRIANGLE;",
        "N-ARY LOGICAL AND;N-ARY LOGICAL OR;N-ARY INTERSECTION;N-ARY UNION;DIAMOND OPERATOR;DOT OPERATOR;",
        "STAR OPERATOR;DIVISION TIMES;BOWTIE;LEFT NORMAL FACTOR SEMIDIRECT PRODUCT;RIGHT NORMAL FACTOR ",
        "SEMIDIRECT PRODUCT;LEFT SEMIDIRECT PRODUCT;RIGHT SEMIDIRECT PRODUCT;REVERSED TILDE EQUALS;CURLY ",
        "LOGICAL OR;CURLY LOGICAL AND;DOUBLE SUBSET;DOUBLE SUPERSET;DOUBLE INTERSECTION;DOUBLE UNION;",
        "PITCHFORK;EQUAL AND PARALLEL TO;LESS-THAN WITH DOT;GREATER-THAN WITH DOT;VERY MUCH LESS-THAN;VERY ",
        "MUCH GREATER-THAN;LESS-THAN EQUAL TO OR GREATER-THAN;GREATER-THAN EQUAL TO OR LESS-THAN;EQUAL TO ",
        "OR LESS-THAN;EQUAL TO OR GREATER-THAN;EQUAL TO OR PRECEDES;EQUAL TO OR SUCCEEDS;DOES NOT PRECEDE ",
        "OR EQUAL;DOES NOT SUCCEED OR EQUAL;NOT SQUARE IMAGE OF OR EQUAL TO;NOT SQUARE ORIGINAL OF OR ",
        "EQUAL TO;SQUARE IMAGE OF OR NOT EQUAL TO;SQUARE ORIGINAL OF OR NOT EQUAL TO;LESS-THAN BUT NOT ",
        "EQUIVALENT TO;GREATER-THAN BUT NOT EQUIVALENT TO;PRECEDES BUT NOT EQUIVALENT TO;SUCCEEDS BUT NOT ",
        "EQUIVALENT TO;NOT NORMAL SUBGROUP OF;DOES NOT CONTAIN AS NORMAL SUBGROUP;NOT NORMAL SUBGROUP OF ",
        "OR EQUAL TO;DOES NOT CONTAIN AS NORMAL SUBGROUP OR EQUAL;VERTICAL ELLIPSIS;MIDLINE HORIZONTAL ",
        "ELLIPSIS;UP RIGHT DIAGONAL ELLIPSIS;DOWN RIGHT DIAGONAL ELLIPSIS;ELEMENT OF WITH LONG HORIZONTAL ",
        "STROKE;ELEMENT OF WITH VERTICAL BAR AT END OF HORIZONTAL STROKE;SMALL ELEMENT OF WITH VERTICAL ",
        "BAR AT END OF HORIZONTAL STROKE;ELEMENT OF WITH DOT ABOVE;ELEMENT OF WITH OVERBAR;SMALL ELEMENT ",
        "OF WITH OVERBAR;ELEMENT OF WITH UNDERBAR;ELEMENT OF WITH TWO HORIZONTAL STROKES;CONTAINS WITH ",
        "LONG HORIZONTAL STROKE;CONTAINS WITH VERTICAL BAR AT END OF HORIZONTAL STROKE;SMALL CONTAINS WITH ",
        "VERTICAL BAR AT END OF HORIZONTAL STROKE;CONTAINS WITH OVERBAR;SMALL CONTAINS WITH OVERBAR;Z ",
        "NOTATION BAG MEMBERSHIP"]

/-- Lines and blocks. -/
def block2500 : NameBlock where
  first := 0x2500
  names :=
    String.join
      ["BOX DRAWINGS LIGHT HORIZONTAL;BOX DRAWINGS HEAVY HORIZONTAL;BOX DRAWINGS LIGHT VERTICAL;BOX ",
        "DRAWINGS HEAVY VERTICAL;BOX DRAWINGS LIGHT TRIPLE DASH HORIZONTAL;BOX DRAWINGS HEAVY TRIPLE DASH ",
        "HORIZONTAL;BOX DRAWINGS LIGHT TRIPLE DASH VERTICAL;BOX DRAWINGS HEAVY TRIPLE DASH VERTICAL;BOX ",
        "DRAWINGS LIGHT QUADRUPLE DASH HORIZONTAL;BOX DRAWINGS HEAVY QUADRUPLE DASH HORIZONTAL;BOX ",
        "DRAWINGS LIGHT QUADRUPLE DASH VERTICAL;BOX DRAWINGS HEAVY QUADRUPLE DASH VERTICAL;BOX DRAWINGS ",
        "LIGHT DOWN AND RIGHT;BOX DRAWINGS DOWN LIGHT AND RIGHT HEAVY;BOX DRAWINGS DOWN HEAVY AND RIGHT ",
        "LIGHT;BOX DRAWINGS HEAVY DOWN AND RIGHT;BOX DRAWINGS LIGHT DOWN AND LEFT;BOX DRAWINGS DOWN LIGHT ",
        "AND LEFT HEAVY;BOX DRAWINGS DOWN HEAVY AND LEFT LIGHT;BOX DRAWINGS HEAVY DOWN AND LEFT;BOX ",
        "DRAWINGS LIGHT UP AND RIGHT;BOX DRAWINGS UP LIGHT AND RIGHT HEAVY;BOX DRAWINGS UP HEAVY AND RIGHT ",
        "LIGHT;BOX DRAWINGS HEAVY UP AND RIGHT;BOX DRAWINGS LIGHT UP AND LEFT;BOX DRAWINGS UP LIGHT AND ",
        "LEFT HEAVY;BOX DRAWINGS UP HEAVY AND LEFT LIGHT;BOX DRAWINGS HEAVY UP AND LEFT;BOX DRAWINGS LIGHT ",
        "VERTICAL AND RIGHT;BOX DRAWINGS VERTICAL LIGHT AND RIGHT HEAVY;BOX DRAWINGS UP HEAVY AND RIGHT ",
        "DOWN LIGHT;BOX DRAWINGS DOWN HEAVY AND RIGHT UP LIGHT;BOX DRAWINGS VERTICAL HEAVY AND RIGHT LIGHT;",
        "BOX DRAWINGS DOWN LIGHT AND RIGHT UP HEAVY;BOX DRAWINGS UP LIGHT AND RIGHT DOWN HEAVY;BOX ",
        "DRAWINGS HEAVY VERTICAL AND RIGHT;BOX DRAWINGS LIGHT VERTICAL AND LEFT;BOX DRAWINGS VERTICAL ",
        "LIGHT AND LEFT HEAVY;BOX DRAWINGS UP HEAVY AND LEFT DOWN LIGHT;BOX DRAWINGS DOWN HEAVY AND LEFT ",
        "UP LIGHT;BOX DRAWINGS VERTICAL HEAVY AND LEFT LIGHT;BOX DRAWINGS DOWN LIGHT AND LEFT UP HEAVY;BOX ",
        "DRAWINGS UP LIGHT AND LEFT DOWN HEAVY;BOX DRAWINGS HEAVY VERTICAL AND LEFT;BOX DRAWINGS LIGHT ",
        "DOWN AND HORIZONTAL;BOX DRAWINGS LEFT HEAVY AND RIGHT DOWN LIGHT;BOX DRAWINGS RIGHT HEAVY AND ",
        "LEFT DOWN LIGHT;BOX DRAWINGS DOWN LIGHT AND HORIZONTAL HEAVY;BOX DRAWINGS DOWN HEAVY AND ",
        "HORIZONTAL LIGHT;BOX DRAWINGS RIGHT LIGHT AND LEFT DOWN HEAVY;BOX DRAWINGS LEFT LIGHT AND RIGHT ",
        "DOWN HEAVY;BOX DRAWINGS HEAVY DOWN AND HORIZONTAL;BOX DRAWINGS LIGHT UP AND HORIZONTAL;BOX ",
        "DRAWINGS LEFT HEAVY AND RIGHT UP LIGHT;BOX DRAWINGS RIGHT HEAVY AND LEFT UP LIGHT;BOX DRAWINGS UP ",
        "LIGHT AND HORIZONTAL HEAVY;BOX DRAWINGS UP HEAVY AND HORIZONTAL LIGHT;BOX DRAWINGS RIGHT LIGHT ",
        "AND LEFT UP HEAVY;BOX DRAWINGS LEFT LIGHT AND RIGHT UP HEAVY;BOX DRAWINGS HEAVY UP AND HORIZONTAL;",
        "BOX DRAWINGS LIGHT VERTICAL AND HORIZONTAL;BOX DRAWINGS LEFT HEAVY AND RIGHT VERTICAL LIGHT;BOX ",
        "DRAWINGS RIGHT HEAVY AND LEFT VERTICAL LIGHT;BOX DRAWINGS VERTICAL LIGHT AND HORIZONTAL HEAVY;BOX ",
        "DRAWINGS UP HEAVY AND DOWN HORIZONTAL LIGHT;BOX DRAWINGS DOWN HEAVY AND UP HORIZONTAL LIGHT;BOX ",
        "DRAWINGS VERTICAL HEAVY AND HORIZONTAL LIGHT;BOX DRAWINGS LEFT UP HEAVY AND RIGHT DOWN LIGHT;BOX ",
        "DRAWINGS RIGHT UP HEAVY AND LEFT DOWN LIGHT;BOX DRAWINGS LEFT DOWN HEAVY AND RIGHT UP LIGHT;BOX ",
        "DRAWINGS RIGHT DOWN HEAVY AND LEFT UP LIGHT;BOX DRAWINGS DOWN LIGHT AND UP HORIZONTAL HEAVY;BOX ",
        "DRAWINGS UP LIGHT AND DOWN HORIZONTAL HEAVY;BOX DRAWINGS RIGHT LIGHT AND LEFT VERTICAL HEAVY;BOX ",
        "DRAWINGS LEFT LIGHT AND RIGHT VERTICAL HEAVY;BOX DRAWINGS HEAVY VERTICAL AND HORIZONTAL;BOX ",
        "DRAWINGS LIGHT DOUBLE DASH HORIZONTAL;BOX DRAWINGS HEAVY DOUBLE DASH HORIZONTAL;BOX DRAWINGS ",
        "LIGHT DOUBLE DASH VERTICAL;BOX DRAWINGS HEAVY DOUBLE DASH VERTICAL;BOX DRAWINGS DOUBLE HORIZONTAL;",
        "BOX DRAWINGS DOUBLE VERTICAL;BOX DRAWINGS DOWN SINGLE AND RIGHT DOUBLE;BOX DRAWINGS DOWN DOUBLE ",
        "AND RIGHT SINGLE;BOX DRAWINGS DOUBLE DOWN AND RIGHT;BOX DRAWINGS DOWN SINGLE AND LEFT DOUBLE;BOX ",
        "DRAWINGS DOWN DOUBLE AND LEFT SINGLE;BOX DRAWINGS DOUBLE DOWN AND LEFT;BOX DRAWINGS UP SINGLE AND ",
        "RIGHT DOUBLE;BOX DRAWINGS UP DOUBLE AND RIGHT SINGLE;BOX DRAWINGS DOUBLE UP AND RIGHT;BOX ",
        "DRAWINGS UP SINGLE AND LEFT DOUBLE;BOX DRAWINGS UP DOUBLE AND LEFT SINGLE;BOX DRAWINGS DOUBLE UP ",
        "AND LEFT;BOX DRAWINGS VERTICAL SINGLE AND RIGHT DOUBLE;BOX DRAWINGS VERTICAL DOUBLE AND RIGHT ",
        "SINGLE;BOX DRAWINGS DOUBLE VERTICAL AND RIGHT;BOX DRAWINGS VERTICAL SINGLE AND LEFT DOUBLE;BOX ",
        "DRAWINGS VERTICAL DOUBLE AND LEFT SINGLE;BOX DRAWINGS DOUBLE VERTICAL AND LEFT;BOX DRAWINGS DOWN ",
        "SINGLE AND HORIZONTAL DOUBLE;BOX DRAWINGS DOWN DOUBLE AND HORIZONTAL SINGLE;BOX DRAWINGS DOUBLE ",
        "DOWN AND HORIZONTAL;BOX DRAWINGS UP SINGLE AND HORIZONTAL DOUBLE;BOX DRAWINGS UP DOUBLE AND ",
        "HORIZONTAL SINGLE;BOX DRAWINGS DOUBLE UP AND HORIZONTAL;BOX DRAWINGS VERTICAL SINGLE AND ",
        "HORIZONTAL DOUBLE;BOX DRAWINGS VERTICAL DOUBLE AND HORIZONTAL SINGLE;BOX DRAWINGS DOUBLE VERTICAL ",
        "AND HORIZONTAL;BOX DRAWINGS LIGHT ARC DOWN AND RIGHT;BOX DRAWINGS LIGHT ARC DOWN AND LEFT;BOX ",
        "DRAWINGS LIGHT ARC UP AND LEFT;BOX DRAWINGS LIGHT ARC UP AND RIGHT;BOX DRAWINGS LIGHT DIAGONAL ",
        "UPPER RIGHT TO LOWER LEFT;BOX DRAWINGS LIGHT DIAGONAL UPPER LEFT TO LOWER RIGHT;BOX DRAWINGS ",
        "LIGHT DIAGONAL CROSS;BOX DRAWINGS LIGHT LEFT;BOX DRAWINGS LIGHT UP;BOX DRAWINGS LIGHT RIGHT;BOX ",
        "DRAWINGS LIGHT DOWN;BOX DRAWINGS HEAVY LEFT;BOX DRAWINGS HEAVY UP;BOX DRAWINGS HEAVY RIGHT;BOX ",
        "DRAWINGS HEAVY DOWN;BOX DRAWINGS LIGHT LEFT AND HEAVY RIGHT;BOX DRAWINGS LIGHT UP AND HEAVY DOWN;",
        "BOX DRAWINGS HEAVY LEFT AND LIGHT RIGHT;BOX DRAWINGS HEAVY UP AND LIGHT DOWN;UPPER HALF BLOCK;",
        "LOWER ONE EIGHTH BLOCK;LOWER ONE QUARTER BLOCK;LOWER THREE EIGHTHS BLOCK;LOWER HALF BLOCK;LOWER ",
        "FIVE EIGHTHS BLOCK;LOWER THREE QUARTERS BLOCK;LOWER SEVEN EIGHTHS BLOCK;FULL BLOCK;LEFT SEVEN ",
        "EIGHTHS BLOCK;LEFT THREE QUARTERS BLOCK;LEFT FIVE EIGHTHS BLOCK;LEFT HALF BLOCK;LEFT THREE ",
        "EIGHTHS BLOCK;LEFT ONE QUARTER BLOCK;LEFT ONE EIGHTH BLOCK;RIGHT HALF BLOCK;LIGHT SHADE;MEDIUM ",
        "SHADE;DARK SHADE;UPPER ONE EIGHTH BLOCK;RIGHT ONE EIGHTH BLOCK;QUADRANT LOWER LEFT;QUADRANT LOWER ",
        "RIGHT;QUADRANT UPPER LEFT;QUADRANT UPPER LEFT AND LOWER LEFT AND LOWER RIGHT;QUADRANT UPPER LEFT ",
        "AND LOWER RIGHT;QUADRANT UPPER LEFT AND UPPER RIGHT AND LOWER LEFT;QUADRANT UPPER LEFT AND UPPER ",
        "RIGHT AND LOWER RIGHT;QUADRANT UPPER RIGHT;QUADRANT UPPER RIGHT AND LOWER LEFT;QUADRANT UPPER ",
        "RIGHT AND LOWER LEFT AND LOWER RIGHT"]

/-- Hiragana and Katakana. -/
def block3040 : NameBlock where
  first := 0x3040
  names :=
    String.join
      [";HIRAGANA LETTER SMALL A;HIRAGANA LETTER A;HIRAGANA LETTER SMALL I;HIRAGANA LETTER I;HIRAGANA ",
        "LETTER SMALL U;HIRAGANA LETTER U;HIRAGANA LETTER SMALL E;HIRAGANA LETTER E;HIRAGANA LETTER SMALL ",
        "O;HIRAGANA LETTER O;HIRAGANA LETTER KA;HIRAGANA LETTER GA;HIRAGANA LETTER KI;HIRAGANA LETTER GI;",
        "HIRAGANA LETTER KU;HIRAGANA LETTER GU;HIRAGANA LETTER KE;HIRAGANA LETTER GE;HIRAGANA LETTER KO;",
        "HIRAGANA LETTER GO;HIRAGANA LETTER SA;HIRAGANA LETTER ZA;HIRAGANA LETTER SI;HIRAGANA LETTER ZI;",
        "HIRAGANA LETTER SU;HIRAGANA LETTER ZU;HIRAGANA LETTER SE;HIRAGANA LETTER ZE;HIRAGANA LETTER SO;",
        "HIRAGANA LETTER ZO;HIRAGANA LETTER TA;HIRAGANA LETTER DA;HIRAGANA LETTER TI;HIRAGANA LETTER DI;",
        "HIRAGANA LETTER SMALL TU;HIRAGANA LETTER TU;HIRAGANA LETTER DU;HIRAGANA LETTER TE;HIRAGANA LETTER ",
        "DE;HIRAGANA LETTER TO;HIRAGANA LETTER DO;HIRAGANA LETTER NA;HIRAGANA LETTER NI;HIRAGANA LETTER NU;",
        "HIRAGANA LETTER NE;HIRAGANA LETTER NO;HIRAGANA LETTER HA;HIRAGANA LETTER BA;HIRAGANA LETTER PA;",
        "HIRAGANA LETTER HI;HIRAGANA LETTER BI;HIRAGANA LETTER PI;HIRAGANA LETTER HU;HIRAGANA LETTER BU;",
        "HIRAGANA LETTER PU;HIRAGANA LETTER HE;HIRAGANA LETTER BE;HIRAGANA LETTER PE;HIRAGANA LETTER HO;",
        "HIRAGANA LETTER BO;HIRAGANA LETTER PO;HIRAGANA LETTER MA;HIRAGANA LETTER MI;HIRAGANA LETTER MU;",
        "HIRAGANA LETTER ME;HIRAGANA LETTER MO;HIRAGANA LETTER SMALL YA;HIRAGANA LETTER YA;HIRAGANA LETTER ",
        "SMALL YU;HIRAGANA LETTER YU;HIRAGANA LETTER SMALL YO;HIRAGANA LETTER YO;HIRAGANA LETTER RA;",
        "HIRAGANA LETTER RI;HIRAGANA LETTER RU;HIRAGANA LETTER RE;HIRAGANA LETTER RO;HIRAGANA LETTER SMALL ",
        "WA;HIRAGANA LETTER WA;HIRAGANA LETTER WI;HIRAGANA LETTER WE;HIRAGANA LETTER WO;HIRAGANA LETTER N;",
        "HIRAGANA LETTER VU;HIRAGANA LETTER SMALL KA;HIRAGANA LETTER SMALL KE;;;COMBINING ",
        "KATAKANA-HIRAGANA VOICED SOUND MARK;COMBINING KATAKANA-HIRAGANA SEMI-VOICED SOUND MARK;",
        "KATAKANA-HIRAGANA VOICED SOUND MARK;KATAKANA-HIRAGANA SEMI-VOICED SOUND MARK;HIRAGANA ITERATION ",
        "MARK;HIRAGANA VOICED ITERATION MARK;HIRAGANA DIGRAPH YORI;KATAKANA-HIRAGANA DOUBLE HYPHEN;",
        "KATAKANA LETTER SMALL A;KATAKANA LETTER A;KATAKANA LETTER SMALL I;KATAKANA LETTER I;KATAKANA ",
        "LETTER SMALL U;KATAKANA LETTER U;KATAKANA LETTER SMALL E;KATAKANA LETTER E;KATAKANA LETTER SMALL ",
        "O;KATAKANA LETTER O;KATAKANA LETTER KA;KATAKANA LETTER GA;KATAKANA LETTER KI;KATAKANA LETTER GI;",
        "KATAKANA LETTER KU;KATAKANA LETTER GU;KATAKANA LETTER KE;KATAKANA LETTER GE;KATAKANA LETTER KO;",
        "KATAKANA LETTER GO;KATAKANA LETTER SA;KATAKANA LETTER ZA;KATAKANA LETTER SI;KATAKANA LETTER ZI;",
        "KATAKANA LETTER SU;KATAKANA LETTER ZU;KATAKANA LETTER SE;KATAKANA LETTER ZE;KATAKANA LETTER SO;",
        "KATAKANA LETTER ZO;KATAKANA LETTER TA;KATAKANA LETTER DA;KATAKANA LETTER TI;KATAKANA LETTER DI;",
        "KATAKANA LETTER SMALL TU;KATAKANA LETTER TU;KATAKANA LETTER DU;KATAKANA LETTER TE;KATAKANA LETTER ",
        "DE;KATAKANA LETTER TO;KATAKANA LETTER DO;KATAKANA LETTER NA;KATAKANA LETTER NI;KATAKANA LETTER NU;",
        "KATAKANA LETTER NE;KATAKANA LETTER NO;KATAKANA LETTER HA;KATAKANA LETTER BA;KATAKANA LETTER PA;",
        "KATAKANA LETTER HI;KATAKANA LETTER BI;KATAKANA LETTER PI;KATAKANA LETTER HU;KATAKANA LETTER BU;",
        "KATAKANA LETTER PU;KATAKANA LETTER HE;KATAKANA LETTER BE;KATAKANA LETTER PE;KATAKANA LETTER HO;",
        "KATAKANA LETTER BO;KATAKANA LETTER PO;KATAKANA LETTER MA;KATAKANA LETTER MI;KATAKANA LETTER MU;",
        "KATAKANA LETTER ME;KATAKANA LETTER MO;KATAKANA LETTER SMALL YA;KATAKANA LETTER YA;KATAKANA LETTER ",
        "SMALL YU;KATAKANA LETTER YU;KATAKANA LETTER SMALL YO;KATAKANA LETTER YO;KATAKANA LETTER RA;",
        "KATAKANA LETTER RI;KATAKANA LETTER RU;KATAKANA LETTER RE;KATAKANA LETTER RO;KATAKANA LETTER SMALL ",
        "WA;KATAKANA LETTER WA;KATAKANA LETTER WI;KATAKANA LETTER WE;KATAKANA LETTER WO;KATAKANA LETTER N;",
        "KATAKANA LETTER VU;KATAKANA LETTER SMALL KA;KATAKANA LETTER SMALL KE;KATAKANA LETTER VA;KATAKANA ",
        "LETTER VI;KATAKANA LETTER VE;KATAKANA LETTER VO;KATAKANA MIDDLE DOT;KATAKANA-HIRAGANA PROLONGED ",
        "SOUND MARK;KATAKANA ITERATION MARK;KATAKANA VOICED ITERATION MARK;KATAKANA DIGRAPH KOTO"]

/-- More pictures. -/
def block1F900 : NameBlock where
  first := 0x1F900
  names :=
    String.join
      ["CIRCLED CROSS FORMEE WITH FOUR DOTS;CIRCLED CROSS FORMEE WITH TWO DOTS;CIRCLED CROSS FORMEE;LEFT ",
        "HALF CIRCLE WITH FOUR DOTS;LEFT HALF CIRCLE WITH THREE DOTS;LEFT HALF CIRCLE WITH TWO DOTS;LEFT ",
        "HALF CIRCLE WITH DOT;LEFT HALF CIRCLE;DOWNWARD FACING HOOK;DOWNWARD FACING NOTCHED HOOK;DOWNWARD ",
        "FACING HOOK WITH DOT;DOWNWARD FACING NOTCHED HOOK WITH DOT;PINCHED FINGERS;WHITE HEART;BROWN ",
        "HEART;PINCHING HAND;ZIPPER-MOUTH FACE;MONEY-MOUTH FACE;FACE WITH THERMOMETER;NERD FACE;THINKING ",
        "FACE;FACE WITH HEAD-BANDAGE;ROBOT FACE;HUGGING FACE;SIGN OF THE HORNS;CALL ME HAND;RAISED BACK OF ",
        "HAND;LEFT-FACING FIST;RIGHT-FACING FIST;HANDSHAKE;HAND WITH INDEX AND MIDDLE FINGERS CROSSED;I ",
        "LOVE YOU HAND SIGN;FACE WITH COWBOY HAT;CLOWN FACE;NAUSEATED FACE;ROLLING ON THE FLOOR LAUGHING;",
        "DROOLING FACE;LYING FACE;FACE PALM;SNEEZING FACE;FACE WITH ONE EYEBROW RAISED;GRINNING FACE WITH ",
        "STAR EYES;GRINNING FACE WITH ONE LARGE AND ONE SMALL EYE;FACE WITH FINGER COVERING CLOSED LIPS;",
        "SERIOUS FACE WITH SYMBOLS COVERING MOUTH;SMILING FACE WITH SMILING EYES AND HAND COVERING MOUTH;",
        "FACE WITH OPEN MOUTH VOMITING;SHOCKED FACE WITH EXPLODING HEAD;PREGNANT WOMAN;BREAST-FEEDING;",
        "PALMS UP TOGETHER;SELFIE;PRINCE;MAN IN TUXEDO;MOTHER CHRISTMAS;SHRUG;PERSON DOING CARTWHEEL;",
        "JUGGLING;FENCER;MODERN PENTATHLON;WRESTLERS;WATER POLO;HANDBALL;DIVING MASK;WILTED FLOWER;DRUM ",
        "WITH DRUMSTICKS;CLINKING GLASSES;TUMBLER GLASS;SPOON;GOAL NET;RIFLE;FIRST PLACE MEDAL;SECOND ",
        "PLACE MEDAL;THIRD PLACE MEDAL;BOXING GLOVE;MARTIAL ARTS UNIFORM;CURLING STONE;LACROSSE STICK AND ",
        "BALL;SOFTBALL;FLYING DISC;CROISSANT;AVOCADO;CUCUMBER;BACON;POTATO;CARROT;BAGUETTE BREAD;GREEN ",
        "SALAD;SHALLOW PAN OF FOOD;STUFFED FLATBREAD;EGG;GLASS OF MILK;PEANUTS;KIWIFRUIT;PANCAKES;DUMPLING;",
        "FORTUNE COOKIE;TAKEOUT BOX;CHOPSTICKS;BOWL WITH SPOON;CUP WITH STRAW;COCONUT;BROCCOLI;PIE;PRETZEL;",
        "CUT OF MEAT;SANDWICH;CANNED FOOD;LEAFY GREEN;MANGO;MOON CAKE;BAGEL;SMILING FACE WITH SMILING EYES ",
        "AND THREE HEARTS;YAWNING FACE;SMILING FACE WITH TEAR;FACE WITH PARTY HORN AND PARTY HAT;FACE WITH ",
        "UNEVEN EYES AND WAVY MOUTH;OVERHEATED FACE;FREEZING FACE;NINJA;DISGUISED FACE;FACE HOLDING BACK ",
        "TEARS;FACE WITH PLEADING EYES;SARI;LAB COAT;GOGGLES;HIKING BOOT;FLAT SHOE;CRAB;LION FACE;SCORPION;",
        "TURKEY;UNICORN FACE;EAGLE;DUCK;BAT;SHARK;OWL;FOX FACE;BUTTERFLY;DEER;GORILLA;LIZARD;RHINOCEROS;",
        "SHRIMP;SQUID;GIRAFFE FACE;ZEBRA FACE;HEDGEHOG;SAUROPOD;T-REX;CRICKET;KANGAROO;LLAMA;PEACOCK;",
        "HIPPOPOTAMUS;PARROT;RACCOON;LOBSTER;MOSQUITO;MICROBE;BADGER;SWAN;MAMMOTH;DODO;SLOTH;OTTER;",
        "ORANGUTAN;SKUNK;FLAMINGO;OYSTER;BEAVER;BISON;SEAL;GUIDE DOG;PROBING CANE;EMOJI COMPONENT RED HAIR;",
        "EMOJI COMPONENT CURLY HAIR;EMOJI COMPONENT BALD;EMOJI COMPONENT WHITE HAIR;BONE;LEG;FOOT;TOOTH;",
        "SUPERHERO;SUPERVILLAIN;SAFETY VEST;EAR WITH HEARING AID;MOTORIZED WHEELCHAIR;MANUAL WHEELCHAIR;",
        "MECHANICAL ARM;MECHANICAL LEG;CHEESE WEDGE;CUPCAKE;SALT SHAKER;BEVERAGE BOX;GARLIC;ONION;FALAFEL;",
        "WAFFLE;BUTTER;MATE DRINK;ICE CUBE;BUBBLE TEA;TROLL;STANDING PERSON;KNEELING PERSON;DEAF PERSON;",
        "FACE WITH MONOCLE;ADULT;CHILD;OLDER ADULT;BEARDED PERSON;PERSON WITH HEADSCARF;PERSON IN STEAMY ",
        "ROOM;PERSON CLIMBING;PERSON IN LOTUS POSITION;MAGE;FAIRY;VAMPIRE;MERPERSON;ELF;GENIE;ZOMBIE;BRAIN;",
        "ORANGE HEART;BILLED CAP;SCARF;GLOVES;COAT;SOCKS;RED GIFT ENVELOPE;FIRECRACKER;JIGSAW PUZZLE PIECE;",
        "TEST TUBE;PETRI DISH;DNA DOUBLE HELIX;COMPASS;ABACUS;FIRE EXTINGUISHER;TOOLBOX;BRICK;MAGNET;",
        "LUGGAGE;LOTION BOTTLE;SPOOL OF THREAD;BALL OF YARN;SAFETY PIN;TEDDY BEAR;BROOM;BASKET;ROLL OF ",
        "PAPER;BAR OF SOAP;SPONGE;RECEIPT;NAZAR AMULET"]

def scriptBlocks : List NameBlock :=
  [block0180, block0250, block0340, block0460, block0530, block0590, block0600, block1E00, block1F00,
    block228F, block2500, block3040, block1F900]

/-! ## Names by rule -/

/-- What follows a beginning. -/
def behind? (front : String) (s : List Char) : Option (List Char) :=
  if front.toList.isPrefixOf s then some (s.drop front.length) else none

def unifiedIdeographs : CodeSet where
  ranges :=
  #[(0x3400, 0x4DBF), (0x4E00, 0x9FFF), (0x20000, 0x2A6DF), (0x2A700, 0x2B738), (0x2B740, 0x2B81D),
    (0x2B820, 0x2CEA1), (0x2CEB0, 0x2EBE0), (0x30000, 0x3134A)]

def upperHex? (c : Char) : Option Nat :=
  if '0' ≤ c && c ≤ '9' then some (c.toNat - 48)
  else if 'A' ≤ c && c ≤ 'F' then some (c.toNat - 55)
  else none

/-- An ideograph is named by its code point. -/
def ideographNamed? (name : List Char) : Option Nat := do
  let digits ← behind? "CJK UNIFIED IDEOGRAPH-" name
  if digits.length = 4 || digits.length = 5 then
    let n ← digits.foldlM (fun n c => (upperHex? c).map (16 * n + ·)) 0
    if unifiedIdeographs.contains n then some n else none
  else none

/-- The first, the middle and the last sounds of syllables. -/
def leadingSounds : List String :=
  ["G", "GG", "N", "D", "DD", "R", "M", "B", "BB", "S", "SS", "", "J", "JJ", "C", "K", "T", "P", "H"]

def vowels : List String :=
  ["A", "AE", "YA", "YAE", "EO", "E", "YEO", "YE", "O", "WA", "WAE", "OE", "YO", "U", "WEO", "WE", "WI", "YU",
    "EU", "YI", "I"]

def trailingSounds : List String :=
  ["", "G", "GG", "GS", "N", "NJ", "NH", "D", "L", "LG", "LM", "LB", "LS", "LT", "LP", "LH", "M", "B", "BS", "S",
    "SS", "NG", "J", "C", "K", "T", "P", "H"]

/-- The number of the longest sound that comes first, and what follows it. -/
def sound? (sounds : List String) (s : List Char) : Option (Nat × List Char) :=
  let fitting := sounds.zipIdx.filterMap fun (sound, i) => (behind? sound s).map (i, ·)
  fitting.foldl (fun best next => if best.all (next.2.length < ·.2.length) then some next else best) none

/-- A syllable is named by its sounds. -/
def syllableNamed? (name : List Char) : Option Nat := do
  let sounds ← behind? "HANGUL SYLLABLE " name
  let (l, sounds) ← sound? leadingSounds sounds
  let (v, sounds) ← sound? vowels sounds
  let (t, sounds) ← sound? trailingSounds sounds
  if sounds.isEmpty then some (0xAC00 + (l * 21 + v) * 28 + t) else none

end PatternLint.Text
