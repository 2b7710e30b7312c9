/-!
# Character names: aliases

Names of characters beside their own: those of control characters, which have no other, abbreviations, and
corrections of names that were given wrongly.
-/

namespace BuildTree.Text.CharacterName

/-- Names beside the own one, with the code points they stand for. -/
def aliases : List (String × Nat) := [
  ("NUL", 0), ("NULL", 0), ("SOH", 1), ("START OF HEADING", 1), ("START OF TEXT", 2), ("STX", 2),
  ("END OF TEXT", 3), ("ETX", 3), ("END OF TRANSMISSION", 4), ("EOT", 4), ("ENQ", 5), ("ENQUIRY", 5),
  ("ACK", 6), ("ACKNOWLEDGE", 6), ("ALERT", 7), ("BEL", 7), ("BACKSPACE", 8), ("BS", 8),
  ("CHARACTER TABULATION", 9), ("HORIZONTAL TABULATION", 9), ("HT", 9), ("TAB", 9), ("END OF LINE", 10),
  ("EOL", 10), ("LF", 10), ("LINE FEED", 10), ("NEW LINE", 10), ("NL", 10), ("LINE TABULATION", 11),
  ("VERTICAL TABULATION", 11), ("VT", 11), ("FF", 12), ("FORM FEED", 12), ("CARRIAGE RETURN", 13), ("CR", 13),
  ("LOCKING-SHIFT ONE", 14), ("SHIFT OUT", 14), ("SO", 14), ("LOCKING-SHIFT ZERO", 15), ("SHIFT IN", 15),
  ("SI", 15), ("DATA LINK ESCAPE", 16), ("DLE", 16), ("DC1", 17), ("DEVICE CONTROL ONE", 17), ("DC2", 18),
  ("DEVICE CONTROL TWO", 18), ("DC3", 19), ("DEVICE CONTROL THREE", 19), ("DC4", 20),
  ("DEVICE CONTROL FOUR", 20), ("NAK", 21), ("NEGATIVE ACKNOWLEDGE", 21), ("SYN", 22),
  ("SYNCHRONOUS IDLE", 22), ("END OF TRANSMISSION BLOCK", 23), ("ETB", 23), ("CAN", 24), ("CANCEL", 24),
  ("END OF MEDIUM", 25), ("EOM", 25), ("SUB", 26), ("SUBSTITUTE", 26), ("ESC", 27), ("ESCAPE", 27),
  ("FILE SEPARATOR", 28), ("FS", 28), ("INFORMATION SEPARATOR FOUR", 28), ("GROUP SEPARATOR", 29), ("GS", 29),
  ("INFORMATION SEPARATOR THREE", 29), ("INFORMATION SEPARATOR TWO", 30), ("RECORD SEPARATOR", 30), ("RS", 30),
  ("INFORMATION SEPARATOR ONE", 31), ("UNIT SEPARATOR", 31), ("US", 31), ("SP", 32), ("DEL", 127),
  ("DELETE", 127), ("PAD", 128), ("PADDING CHARACTER", 128), ("HIGH OCTET PRESET", 129), ("HOP", 129),
  ("BPH", 130), ("BREAK PERMITTED HERE", 130), ("NBH", 131), ("NO BREAK HERE", 131), ("IND", 132),
  ("INDEX", 132), ("NEL", 133), ("NEXT LINE", 133), ("SSA", 134), ("START OF SELECTED AREA", 134),
  ("END OF SELECTED AREA", 135), ("ESA", 135), ("CHARACTER TABULATION SET", 136),
  ("HORIZONTAL TABULATION SET", 136), ("HTS", 136), ("CHARACTER TABULATION WITH JUSTIFICATION", 137),
  ("HORIZONTAL TABULATION WITH JUSTIFICATION", 137), ("HTJ", 137), ("LINE TABULATION SET", 138),
  ("VERTICAL TABULATION SET", 138), ("VTS", 138), ("PARTIAL LINE DOWN", 139), ("PARTIAL LINE FORWARD", 139),
  ("PLD", 139), ("PARTIAL LINE BACKWARD", 140), ("PARTIAL LINE UP", 140), ("PLU", 140), ("REVERSE INDEX", 141),
  ("REVERSE LINE FEED", 141), ("RI", 141), ("SINGLE SHIFT TWO", 142), ("SINGLE-SHIFT-2", 142), ("SS2", 142),
  ("SINGLE SHIFT THREE", 143), ("SINGLE-SHIFT-3", 143), ("SS3", 143), ("DCS", 144),
  ("DEVICE CONTROL STRING", 144), ("PRIVATE USE ONE", 145), ("PRIVATE USE-1", 145), ("PU1", 145),
  ("PRIVATE USE TWO", 146), ("PRIVATE USE-2", 146), ("PU2", 146), ("SET TRANSMIT STATE", 147), ("STS", 147),
  ("CANCEL CHARACTER", 148), ("CCH", 148), ("MESSAGE WAITING", 149), ("MW", 149), ("SPA", 150),
  ("START OF GUARDED AREA", 150), ("START OF PROTECTED AREA", 150), ("END OF GUARDED AREA", 151),
  ("END OF PROTECTED AREA", 151), ("EPA", 151), ("SOS", 152), ("START OF STRING", 152), ("SGC", 153),
  ("SINGLE GRAPHIC CHARACTER INTRODUCER", 153), ("SCI", 154), ("SINGLE CHARACTER INTRODUCER", 154),
  ("CONTROL SEQUENCE INTRODUCER", 155), ("CSI", 155), ("ST", 156), ("STRING TERMINATOR", 156),
  ("OPERATING SYSTEM COMMAND", 157), ("OSC", 157), ("PM", 158), ("PRIVACY MESSAGE", 158), ("APC", 159),
  ("APPLICATION PROGRAM COMMAND", 159), ("NBSP", 160), ("SHY", 173), ("LATIN CAPITAL LETTER GHA", 418),
  ("LATIN SMALL LETTER GHA", 419), ("CGJ", 847), ("ALM", 1564), ("SYRIAC SUBLINEAR COLON SKEWED LEFT", 1801),
  ("KANNADA LETTER LLLA", 3294), ("LAO LETTER FO FON", 3741), ("LAO LETTER FO FAY", 3743),
  ("LAO LETTER RO", 3747), ("LAO LETTER LO", 3749), ("TIBETAN MARK BKA- SHOG GI MGO RGYAN", 4048),
  ("HANGUL JONGSEONG YESIEUNG-KIYEOK", 4588), ("HANGUL JONGSEONG YESIEUNG-SSANGKIYEOK", 4589),
  ("HANGUL JONGSEONG SSANGYESIEUNG", 4590), ("HANGUL JONGSEONG YESIEUNG-KHIEUKH", 4591), ("FVS1", 6155),
  ("FVS2", 6156), ("FVS3", 6157), ("MVS", 6158), ("FVS4", 6159), ("ZWSP", 8203), ("ZWNJ", 8204), ("ZWJ", 8205),
  ("LRM", 8206), ("RLM", 8207), ("LRE", 8234), ("RLE", 8235), ("PDF", 8236), ("LRO", 8237), ("RLO", 8238),
  ("NNBSP", 8239), ("MMSP", 8287), ("WJ", 8288), ("LRI", 8294), ("RLI", 8295), ("FSI", 8296), ("PDI", 8297),
  ("WEIERSTRASS ELLIPTIC FUNCTION", 8472), ("MICR ON US SYMBOL", 9288), ("MICR DASH SYMBOL", 9289),
  ("LEFTWARDS TRIANGLE-HEADED ARROW WITH DOUBLE VERTICAL STROKE", 11130),
  ("RIGHTWARDS TRIANGLE-HEADED ARROW WITH DOUBLE VERTICAL STROKE", 11132),
  ("YI SYLLABLE ITERATION MARK", 40981), ("MYANMAR LETTER KHAMTI LLA", 43630),
  ("PRESENTATION FORM FOR VERTICAL RIGHT WHITE LENTICULAR BRACKET", 65048), ("BOM", 65279),
  ("BYTE ORDER MARK", 65279), ("ZWNBSP", 65279), ("CUNEIFORM SIGN NU11 TENU", 74452),
  ("CUNEIFORM SIGN NU11 OVER NU11 BUR OVER BUR", 74453), ("MEDEFAIDRIN CAPITAL LETTER H", 93782),
  ("MEDEFAIDRIN CAPITAL LETTER NG", 93783), ("MEDEFAIDRIN SMALL LETTER H", 93814),
  ("MEDEFAIDRIN SMALL LETTER NG", 93815), ("HENTAIGANA LETTER E-1", 110593),
  ("BYZANTINE MUSICAL SYMBOL FTHORA SKLIRON CHROMA VASIS", 118981)]

end BuildTree.Text.CharacterName
