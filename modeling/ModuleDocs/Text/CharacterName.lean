import ModuleDocs.Text.CharacterName.Alphabets
import ModuleDocs.Text.CharacterName.AncientAlphabets
import ModuleDocs.Text.CharacterName.EastAsia
import ModuleDocs.Text.CharacterName.Forms
import ModuleDocs.Text.CharacterName.Hieroglyphs
import ModuleDocs.Text.CharacterName.Mathematical
import ModuleDocs.Text.CharacterName.Pictographs
import ModuleDocs.Text.CharacterName.SouthAsia
import ModuleDocs.Text.CharacterName.Symbols
import ModuleDocs.Text.Ranges
import ModuleDocs.Text.Search

/-!
# Names of characters

Finds a character by its Unicode name or by another name it goes by. The names are listed in the order of
the characters. An entry of the lists gives the number of words that its name has in common with the name
before it, as one hexadecimal digit, and then the other words, where `*` stands for the code point; the code
point itself stands in front where it does not follow the one before. Ideographs and Korean syllables have
names made by rules.
-/
set_option autoImplicit false

namespace ModuleDocs.Text

namespace CharacterName

/-! ## Lists -/

/-- A character and the words of its name. -/
structure Entry where
  code : Nat
  words : List String

/-- A number in hexadecimal digits, in upper case. -/
def upperHex (n : Nat) : String := String.ofList ((Nat.toDigits 16 n).map Char.toUpper)

def Entry.next (before : Entry) (text : String) : Entry :=
  let (code, rest) :=
    match text.splitOn ":" with
    | [code, rest] => (hexNumber code.toList, rest.toList)
    | _ => (before.code + 1, text.toList)
  let shared := hexNumber (rest.take 1)
  let words := if rest.length ≤ 1 then [] else (String.ofList (rest.drop 1)).splitOn " "
  { code, words := before.words.take shared ++ words.map fun w => w.replace "*" (upperHex code) }

def findAfter (wanted : List String) : Entry → List String → Option Nat
  | _, [] => none
  | before, text :: more =>
    let entry := before.next text
    if entry.words = wanted then some entry.code else findAfter wanted entry more

def findIn (wanted : List String) (lines : List String) : Option Nat :=
  findAfter wanted ⟨0, []⟩ (lines.flatMap (·.splitOn ";"))

/-- Other names of characters, `code:name`. -/
def otherNames : List String :=
    ["0:NULL;0:NUL;1:START OF HEADING;1:SOH;2:START OF TEXT;2:STX;3:END OF TEXT;3:ETX",
    "4:END OF TRANSMISSION;4:EOT;5:ENQUIRY;5:ENQ;6:ACKNOWLEDGE;6:ACK;7:ALERT;7:BEL;8:BACKSPACE;8:BS",
    "9:CHARACTER TABULATION;9:HORIZONTAL TABULATION;9:HT;9:TAB;A:LINE FEED;A:NEW LINE;A:END OF LINE",
    "A:LF;A:NL;A:EOL;B:LINE TABULATION;B:VERTICAL TABULATION;B:VT;C:FORM FEED;C:FF;D:CARRIAGE RETURN",
    "D:CR;E:SHIFT OUT;E:LOCKING-SHIFT ONE;E:SO;F:SHIFT IN;F:LOCKING-SHIFT ZERO;F:SI",
    "10:DATA LINK ESCAPE;10:DLE;11:DEVICE CONTROL ONE;11:DC1;12:DEVICE CONTROL TWO;12:DC2",
    "13:DEVICE CONTROL THREE;13:DC3;14:DEVICE CONTROL FOUR;14:DC4;15:NEGATIVE ACKNOWLEDGE;15:NAK",
    "16:SYNCHRONOUS IDLE;16:SYN;17:END OF TRANSMISSION BLOCK;17:ETB;18:CANCEL;18:CAN;19:END OF MEDIUM",
    "19:EOM;1A:SUBSTITUTE;1A:SUB;1B:ESCAPE;1B:ESC;1C:INFORMATION SEPARATOR FOUR;1C:FILE SEPARATOR",
    "1C:FS;1D:INFORMATION SEPARATOR THREE;1D:GROUP SEPARATOR;1D:GS;1E:INFORMATION SEPARATOR TWO",
    "1E:RECORD SEPARATOR;1E:RS;1F:INFORMATION SEPARATOR ONE;1F:UNIT SEPARATOR;1F:US;20:SP;7F:DELETE",
    "7F:DEL;80:PADDING CHARACTER;80:PAD;81:HIGH OCTET PRESET;81:HOP;82:BREAK PERMITTED HERE;82:BPH",
    "83:NO BREAK HERE;83:NBH;84:INDEX;84:IND;85:NEXT LINE;85:NEL;86:START OF SELECTED AREA;86:SSA",
    "87:END OF SELECTED AREA;87:ESA;88:CHARACTER TABULATION SET;88:HORIZONTAL TABULATION SET;88:HTS",
    "89:CHARACTER TABULATION WITH JUSTIFICATION;89:HORIZONTAL TABULATION WITH JUSTIFICATION;89:HTJ",
    "8A:LINE TABULATION SET;8A:VERTICAL TABULATION SET;8A:VTS;8B:PARTIAL LINE FORWARD",
    "8B:PARTIAL LINE DOWN;8B:PLD;8C:PARTIAL LINE BACKWARD;8C:PARTIAL LINE UP;8C:PLU",
    "8D:REVERSE LINE FEED;8D:REVERSE INDEX;8D:RI;8E:SINGLE SHIFT TWO;8E:SINGLE-SHIFT-2;8E:SS2",
    "8F:SINGLE SHIFT THREE;8F:SINGLE-SHIFT-3;8F:SS3;90:DEVICE CONTROL STRING;90:DCS",
    "91:PRIVATE USE ONE;91:PRIVATE USE-1;91:PU1;92:PRIVATE USE TWO;92:PRIVATE USE-2;92:PU2",
    "93:SET TRANSMIT STATE;93:STS;94:CANCEL CHARACTER;94:CCH;95:MESSAGE WAITING;95:MW",
    "96:START OF GUARDED AREA;96:START OF PROTECTED AREA;96:SPA;97:END OF GUARDED AREA",
    "97:END OF PROTECTED AREA;97:EPA;98:START OF STRING;98:SOS;99:SINGLE GRAPHIC CHARACTER INTRODUCER",
    "99:SGC;9A:SINGLE CHARACTER INTRODUCER;9A:SCI;9B:CONTROL SEQUENCE INTRODUCER;9B:CSI",
    "9C:STRING TERMINATOR;9C:ST;9D:OPERATING SYSTEM COMMAND;9D:OSC;9E:PRIVACY MESSAGE;9E:PM",
    "9F:APPLICATION PROGRAM COMMAND;9F:APC;A0:NBSP;AD:SHY;1A2:LATIN CAPITAL LETTER GHA",
    "1A3:LATIN SMALL LETTER GHA;34F:CGJ;61C:ALM;709:SYRIAC SUBLINEAR COLON SKEWED LEFT",
    "CDE:KANNADA LETTER LLLA;E9D:LAO LETTER FO FON;E9F:LAO LETTER FO FAY;EA3:LAO LETTER RO",
    "EA5:LAO LETTER LO;FD0:TIBETAN MARK BKA- SHOG GI MGO RGYAN;11EC:HANGUL JONGSEONG YESIEUNG-KIYEOK",
    "11ED:HANGUL JONGSEONG YESIEUNG-SSANGKIYEOK;11EE:HANGUL JONGSEONG SSANGYESIEUNG",
    "11EF:HANGUL JONGSEONG YESIEUNG-KHIEUKH;180B:FVS1;180C:FVS2;180D:FVS3;180E:MVS;180F:FVS4",
    "200B:ZWSP;200C:ZWNJ;200D:ZWJ;200E:LRM;200F:RLM;202A:LRE;202B:RLE;202C:PDF;202D:LRO;202E:RLO",
    "202F:NNBSP;205F:MMSP;2060:WJ;2066:LRI;2067:RLI;2068:FSI;2069:PDI",
    "2118:WEIERSTRASS ELLIPTIC FUNCTION;2448:MICR ON US SYMBOL;2449:MICR DASH SYMBOL",
    "2B7A:LEFTWARDS TRIANGLE-HEADED ARROW WITH DOUBLE VERTICAL STROKE",
    "2B7C:RIGHTWARDS TRIANGLE-HEADED ARROW WITH DOUBLE VERTICAL STROKE",
    "A015:YI SYLLABLE ITERATION MARK;AA6E:MYANMAR LETTER KHAMTI LLA",
    "FE18:PRESENTATION FORM FOR VERTICAL RIGHT WHITE LENTICULAR BRACKET;FEFF:BYTE ORDER MARK;FEFF:BOM",
    "FEFF:ZWNBSP;122D4:CUNEIFORM SIGN NU11 TENU;122D5:CUNEIFORM SIGN NU11 OVER NU11 BUR OVER BUR",
    "16E56:MEDEFAIDRIN CAPITAL LETTER H;16E57:MEDEFAIDRIN CAPITAL LETTER NG",
    "16E76:MEDEFAIDRIN SMALL LETTER H;16E77:MEDEFAIDRIN SMALL LETTER NG;1B001:HENTAIGANA LETTER E-1",
    "1D0C5:BYZANTINE MUSICAL SYMBOL FTHORA SKLIRON CHROMA VASIS"]

/-- The characters that choose a form of the one before them go by numbers. -/
def selector? (name : List Char) : Option Nat := do
  let digits ← dropPrefix? ['V', 'S'] name
  let n := digits.foldl (fun n c => 10 * n + (c.toNat - 48)) 0
  if digits ≠ (toString n).toList || n = 0 || n > 256 then none
  else some (if n ≤ 16 then 0xfe00 + (n - 1) else 0xe0100 + (n - 17))

/-! ## Rules -/

def ideographs : Ranges := Ranges.ofLines
    ["3400-4dbf 4e00-9fff 20000-2a6df 2a700-2b738 2b740-2b81d 2b820-2cea1 2ceb0-2ebe0 30000-3134a"]

def ideograph? (digits : List Char) : Option Nat :=
  let upper := digits.all fun c => ('0' ≤ c && c ≤ '9') || ('A' ≤ c && c ≤ 'F')
  let n := hexNumber digits
  if upper && (digits.length = 4 || digits.length = 5) && ideographs.has n then some n else none

def firstSounds : List String :=
  ["G", "GG", "N", "D", "DD", "R", "M", "B", "BB", "S", "SS", "", "J", "JJ", "C", "K", "T", "P", "H"]

def middleSounds : List String :=
  ["A", "AE", "YA", "YAE", "EO", "E", "YEO", "YE", "O", "WA", "WAE", "OE", "YO", "U", "WEO", "WE", "WI",
    "YU", "EU", "YI", "I"]

def lastSounds : List String :=
  ["", "G", "GG", "GS", "N", "NJ", "NH", "D", "L", "LG", "LM", "LB", "LS", "LT", "LP", "LH", "M", "B", "BS",
    "S", "SS", "NG", "J", "C", "K", "T", "P", "H"]

/-- The longest sound at the start of a text: its number, and what follows it. -/
def takeSound (sounds : List String) (cs : List Char) : Option (Nat × List Char) :=
  let fitting := (sounds.zipIdx.filter fun s => s.1.toList.isPrefixOf cs).map fun s => (s.2, s.1.length)
  let longest := fitting.foldl (fun best s => if best.any (fun b => s.2 ≤ b.2) then best else some s) none
  longest.map fun s => (s.1, cs.drop s.2)

def syllable? (cs : List Char) : Option Nat := do
  let (first, rest) ← takeSound firstSounds cs
  let (middle, rest) ← takeSound middleSounds rest
  let (last, rest) ← takeSound lastSounds rest
  if rest.isEmpty then some (0xac00 + (first * 21 + middle) * 28 + last) else none

end CharacterName

open CharacterName in
/-- The code point of the character with a name. Case does not matter, except in names made by rules. -/
def characterNamed? (name : List Char) : Option Nat :=
  match dropPrefix? "CJK UNIFIED IDEOGRAPH-".toList name, dropPrefix? "HANGUL SYLLABLE ".toList name with
  | some digits, _ => ideograph? digits
  | none, some sounds => syllable? sounds
  | none, none =>
    let upper := name.map Char.toUpper
    let words := (String.ofList upper).splitOn " "
    let other := fun (_ : Unit) => (otherNames.flatMap (·.splitOn ";")).findSome? fun text =>
      match text.splitOn ":" with
      | [code, name] => if name.toList = upper then some (hexNumber code.toList) else none
      | _ => none
    match selector? upper with
    | some code => some code
    | none =>
      match other () with
      | some code => some code
      | none =>
        [alphabetNames, southAsianNames, symbolNames, eastAsianNames, formNames, ancientNames,
          hieroglyphNames, mathematicalNames, pictographNames].findSome? (findIn words)

end ModuleDocs.Text
