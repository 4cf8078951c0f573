/-
Characters that join with those beside them: marks, and letters that are written together, by
Unicode 13.0.

The tables have the characters that domain names can have.
-/
import RelStore.Text.Direction

namespace RelStore.Text

/-! ## Marks -/

/-- Marks that take a place of their own. -/
def spacingMarks : List CodeRange := rangesOfLines
  ["903 93B 93E-940 949-94C 94E-94F 982-983 9BE-9C0 9C7-9CC 9D7 A03 A3E-A40 A83 ABE-AC0 AC9-ACC",
   "B02-B03 B3E B40 B47-B4C B57 BBE-BBF BC1-BCC BD7 C01-C03 C41-C44 C82-C83 CBE-CCB CD5-CD6",
   "D02-D03 D3E-D40 D46-D4C D57 D82-D83 DCF-DD1 DD8-DDF DF2-DF3 F3E-F3F F7F 102B-102C 1031 1038",
   "103B-103C 1056-1057 1062-1064 1067-106D 1083-1084 1087-108C 108F 109A-109C 17B6 17BE-17C5",
   "17C7-17C8 1923-1926 1929-1931 1933-1938 1A19-1A1A 1A55 1A57 1A61 1A63-1A64 1A6D-1A72 1B04",
   "1B35 1B3B 1B3D-1B41 1B43-1B44 1B82 1BA1 1BA6-1BA7 1BAA 1BE7 1BEA-1BEC 1BEE 1BF2-1BF3",
   "1C24-1C2B 1C34-1C35 1CE1 1CF7 302E-302F A823-A824 A827 A880-A881 A8B4-A8C3 A952-A953 A983",
   "A9B4-A9B5 A9BA-A9BB A9BE-A9C0 AA2F-AA30 AA33-AA34 AA4D AA7B AA7D AAEB AAEE-AAEF AAF5",
   "ABE3-ABE4 ABE6-ABE7 ABE9-ABEA ABEC 11000 11002 11082 110B0-110B2 110B7-110B8 1112C",
   "11145-11146 11182 111B3-111B5 111BF-111C0 111CE 1122C-1122E 11232-11233 11235 112E0-112E2",
   "11302-11303 1133E-1133F 11341-1134D 11357 11362-11363 11435-11437 11440-11441 11445",
   "114B0-114B2 114B9 114BB-114BE 114C1 115AF-115B1 115B8-115BB 115BE 11630-11632 1163B-1163C",
   "1163E 116AC 116AE-116AF 116B6 11720-11721 11726 1182C-1182E 11838 11930-11938 1193D 11940",
   "11942 119D1-119D3 119DC-119DF 119E4 11A07-11A08 11A39 11A57-11A58 11A97 11C2F 11C3E-11C3F",
   "11CA9 11CB1 11CB4 11D8A-11D8E 11D93-11D94 11D96 11EF5-11EF6 16F51-16F87 16FF0-16FF1",
   "1D165-1D166 1D16D-1D172"]

def isMark (c : Char) : Bool := directionOf c == .mark || isInRanges spacingMarks c

/-- Signs that take the vowel off a consonant, and can join it with the next. -/
def viramas : List CodeRange := rangesOfLines
  ["94D 9CD A4D ACD B4D BCD C4D CCD D3B-D3C D4D DCA E3A EBA F84 1039-103A 1714 1734 17D2 1A60",
   "1B44 1BAA-1BAB 1BF2-1BF3 2D7F A806 A82C A8C4 A953 A9C0 AAF6 ABED 10A3F 11046 1107F 110B9",
   "11133-11134 111C0 11235 112EA 1134D 11442 114C2 115BF 1163F 116B6 1172B 11839 1193D-1193E",
   "119E0 11A34 11A47 11A99 11C3F 11D44-11D45 11D97"]

def isVirama (c : Char) : Bool := isInRanges viramas c

/-! ## Letters written together -/

/-- Letters that join with the one before only. -/
def joiningBefore : List CodeRange := rangesOfLines
  ["622-625 627 629 62F-632 648 671-673 688-699 6C0 6C3-6CB 6CD 6CF 6D2-6D3 6D5 6EE-6EF 710",
   "715-719 71E 728 72A 72C 72F 74D 759-75B 854 8AA-8AC"]

/-- Letters that join on both sides. -/
def joiningBoth : List CodeRange := rangesOfLines
  ["620 626 628 62A-62E 633-63F 641-647 649-64A 66E-66F 679-687 69A-6BF 6C1-6C2 6CC 6CE 6D0-6D1",
   "6FA-6FC 6FF 712-714 71A-71D 71F-727 729 72B 72D-72E 74E-758 75C-766 850-853 855 8A0 8A2-8A9",
   "1807 1820-1877 1887-18A8 18AA A840-A871"]

/-- Letters that join with the one after only. -/
def joiningAfter : List CodeRange := rangesOfLines ["A872"]

def joinsBefore (c : Char) : Bool := isInRanges joiningBoth c || isInRanges joiningBefore c

def joinsAfter (c : Char) : Bool := isInRanges joiningBoth c || isInRanges joiningAfter c

end RelStore.Text
