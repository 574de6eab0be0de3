import StreamPlot.Text.Emoji
import StreamPlot.Text.Wide

/-!
# The columns of a text

A terminal gives most characters one column, ideographs and pictures two, and marks
none. Some sequences take other room than the sum of their characters: joined pictures,
pictures with a skin tone, characters that are asked to be shown as a picture or as a
letter, and the ligatures of several scripts.

What a character adds is known from what stands to its right. A text is therefore gone
through from its end, and `RightContext` is what has to be remembered on the way.
-/

namespace StreamPlot

/-- What begins to the right of a character, as far as it matters to that character. -/
inductive Follower where
  | other
  | lineFeed
  | skinTone
  /-- One half of a flag, the only one so far. -/
  | flagHalf
  | flagHalves
  | picture
  /-- A joiner and behind it a picture. -/
  | joinedPicture
  /-- A key cap, a joiner and a picture. -/
  | joinedKeycap
  /-- One half of a flag, a joiner and a picture. -/
  | joinedFlagHalf
  | joinedEvenHalves
  | joinedOddHalves
  /-- Some tags that are letters, the end of the tags, a joiner and a picture. -/
  | joinedTagLetters (count : Nat)
  /-- Some tags that are digits and perhaps letters, and what follows letters. -/
  | joinedTagDigits (count : Nat)
  /-- An Arabic alef, which joins with a lam. -/
  | alef
  /-- A Hebrew lamed, perhaps behind a joiner, which joins with an alef. -/
  | lamed (joined : Bool)
  /-- A Buginese ya, perhaps behind a joiner, which joins with a vowel and a letter. -/
  | ya (joined : Bool)
  | vowelAndYa
  /-- A Tifinagh consonant, perhaps behind a joiner, which joins with another one. -/
  | tifinagh (joined : Bool)
  /-- The joiner of that script and a consonant. -/
  | joinerAndTifinagh
  /-- A Lisu tone that joins with another one. -/
  | tone
  /-- An Old Turkic letter, perhaps behind a joiner, which joins with another one. -/
  | orkhon (joined : Bool)
  /-- A Khmer letter that has a form below the line. -/
  | coengLetter
  deriving DecidableEq, Repr, Inhabited

namespace Follower

/-- Whether this can become a part of a ligature of letters. -/
def isLetter : Follower → Bool
  | alef | lamed _ | ya _ | vowelAndYa | tifinagh _ | joinerAndTifinagh | tone | orkhon _
  | coengLetter => true
  | _ => false

/-- Whether joiners and invisible marks may stand inside the ligature. An alef has a rule
of its own. -/
def allowsMarks (follower : Follower) : Bool := follower.isLetter && follower != alef

/-- The same behind a joiner. -/
def behindJoiner : Follower → Follower
  | lamed _ => lamed true
  | ya _ => ya true
  | tifinagh _ => tifinagh true
  | orkhon _ => orkhon true
  | follower => follower

/-- Whether this is a picture, or what stands for one, that is joined to what comes before. -/
def isJoined : Follower → Bool
  | joinedPicture | joinedKeycap => true
  | _ => false

end Follower

/-- What is to the right of a character. -/
structure RightContext where
  follower : Follower := .other
  /-- Whether the character is asked to be shown as a picture. -/
  wantsPicture : Bool := false
  /-- Whether it is asked to be shown as a letter. -/
  wantsLetter : Bool := false
  deriving DecidableEq, Repr, Inhabited

namespace RightContext

/-- Ask for a picture. What is to the right is forgotten, unless it can still join. -/
def askPicture (right : RightContext) : RightContext :=
  if right.follower.isLetter || right.follower.isJoined then { right with wantsPicture := true }
  else { wantsPicture := true }

/-- Ask for a letter. -/
def askLetter (right : RightContext) : RightContext :=
  if right.follower.isLetter then { right with wantsLetter := true } else { wantsLetter := true }

/-- Nothing here can be shown as the picture that was asked for. -/
def dropPicture (right : RightContext) : RightContext :=
  if !right.wantsPicture then right
  else if right.follower.isLetter then { right with wantsPicture := false }
  else {}

end RightContext

/-- An Arabic letter that joins with an alef. -/
def isLam (c : Char) : Bool :=
  let code := c.toNat
  code == 0x644 || (0x6B5 ≤ code && code ≤ 0x6B8) || code == 0x76A || code == 0x8A6
    || code == 0x8C7

/-- An Arabic letter that joins with a lam. -/
def isAlef (c : Char) : Bool :=
  inRanges #[(0x622, 0x623), (0x625, 0x625), (0x627, 0x627), (0x671, 0x673), (0x675, 0x675),
    (0x773, 0x774), (0x870, 0x882)] c.toNat

/-- A Khmer letter that has a form below the line which takes no room. -/
def isCoengLetter (c : Char) : Bool :=
  inRanges #[(0x1780, 0x1782), (0x1784, 0x1787), (0x1789, 0x178C), (0x178E, 0x1793),
    (0x1795, 0x1798), (0x179B, 0x179D), (0x17A0, 0x17A0), (0x17A2, 0x17A2), (0x17A7, 0x17A7),
    (0x17AB, 0x17AC), (0x17AF, 0x17AF)] c.toNat

/-- A Tifinagh letter that joins with another one. -/
def isTifinagh (c : Char) : Bool :=
  (0x2D31 ≤ c.toNat && c.toNat ≤ 0x2D65) || c.toNat == 0x2D6F

/-- The columns of a character by itself. A control counts as one. Two Khmer characters stand
for two and three others and take their room. -/
def charWidth (c : Char) : Nat :=
  let code := c.toNat
  if code ≤ 0xA0 then 1
  else if code == 0x17A4 then 2
  else if code == 0x17D8 then 3
  else if isWeightless c then 0
  else if isWide c then 2
  else 1

/-- What a character by itself is to the one before it. -/
def RightContext.ofChar (c : Char) : RightContext :=
  let code := c.toNat
  if code == 0xFE0E then { wantsLetter := true }
  else if code == 0xFE0F then { wantsPicture := true }
  else
    { follower :=
        if code == 0x5DC then .lamed false
        else if isAlef c then .alef
        else if isCoengLetter c then .coengLetter
        else if code == 0x1A10 then .ya false
        else if isTifinagh c then .tifinagh false
        else if code == 0xA4FC || code == 0xA4FD then .tone
        else if code == 0x10C03 then .orkhon false
        else if isRegionalIndicator c then .flagHalf
        else if isSkinTone c then .skinTone
        else if isPicture c then .picture
        else .other }

/-- The joiner of pictures and letters. -/
def isJoiner (c : Char) : Bool := c.toNat == 0x200D

/-- What a character adds before what it joins with, and what the two are to the character
before them. The sum is less than what they take apart, so a character may add less
than nothing. -/
def Follower.joinWith? (follower : Follower) (c : Char) : Option (Int × Follower) :=
  let code := c.toNat
  match follower with
  | .alef =>
      if isLam c then some (0, .other) else if isTransparent c then some (0, .alef) else none
  | .lamed true => if code == 0x5D0 then some (0, .other) else none
  | .coengLetter => if code == 0x17D2 then some (-1, .other) else none
  | .ya true => if code == 0x1A17 then some (0, .vowelAndYa) else none
  | .vowelAndYa => if code == 0x1A15 then some (0, .other) else none
  | .tifinagh joined =>
      if code == 0x2D7F then some (1, .joinerAndTifinagh)
      else if joined && isTifinagh c then some (0, .other)
      else none
  | .joinerAndTifinagh => if isTifinagh c then some (-1, .other) else none
  | .tone => if 0xA4F8 ≤ code && code ≤ 0xA4FB then some (0, .other) else none
  | .orkhon true => if code == 0x10C32 then some (0, .other) else none
  | .skinTone =>
      if isSkinToneBase c then some (0, .picture)
      else if isJoiner c then some (0, .joinedPicture)
      else none
  | .flagHalf => if isRegionalIndicator c then some (1, .flagHalves) else none
  | .flagHalves =>
      if isRegionalIndicator c then some (1, .flagHalves)
      else if isJoiner c then some (0, .joinedPicture)
      else none
  | .picture => if isJoiner c then some (0, .joinedPicture) else none
  | .joinedFlagHalf => if isRegionalIndicator c then some (-1, .joinedEvenHalves) else none
  | .joinedEvenHalves =>
      if isRegionalIndicator c then some (3, .joinedOddHalves)
      else if isJoiner c then some (0, .joinedPicture)
      else none
  | .joinedOddHalves =>
      if isRegionalIndicator c then some (-1, .joinedEvenHalves)
      else if isJoiner c then some (0, .joinedPicture)
      else none
  | .joinedPicture =>
      if code == 0x20E3 then some (0, .joinedKeycap)
      else if isRegionalIndicator c then some (1, .joinedFlagHalf)
      else if isSkinTone c then some (0, .skinTone)
      else if code == 0xE007F then some (0, .joinedTagLetters 0)
      else if isPicture c then some (0, .picture)
      else none
  | .joinedTagLetters count =>
      if 0xE0061 ≤ code && code ≤ 0xE007A && count < 6 then
        some (0, .joinedTagLetters (count + 1))
      else if 0xE0030 ≤ code && code ≤ 0xE0039 && count < 5 then some (0, .joinedTagDigits 1)
      else if code == 0x1F3F4 && 3 ≤ count then some (0, .picture)
      else none
  | .joinedTagDigits count =>
      if 0xE0030 ≤ code && code ≤ 0xE0039 && count < 3 then
        some (0, .joinedTagDigits (count + 1))
      else if code == 0x1F3F4 && count == 3 then some (0, .picture)
      else none
  | _ => none

/-- What a character adds to the columns of what is to its right, and what is to the right
of the character before it. -/
def addChar (c : Char) (right : RightContext) : Int × RightContext :=
  let alone : Int × RightContext := (charWidth c, .ofChar c)
  if right.wantsPicture && hasPictureStyle c then
    (if right.follower.isJoined then 0 else 2, { follower := .picture })
  else
    let right := right.dropPicture
    if c == '\n' then (1, { follower := .lineFeed })
    else if c == '\r' && right == { follower := .lineFeed } then (0, {})
    else if c.toNat ≤ 0xA0 || right == {} then alone
    else if c.toNat == 0xFE0F then (0, right.askPicture)
    else if c.toNat == 0xFE0E then (0, right.askLetter)
    else if right.wantsLetter && hasNarrowStyle c then (1, {})
    else if right.follower.allowsMarks && isJoiner c then
      (0, { follower := right.follower.behindJoiner })
    else if right.follower.allowsMarks && isInvisibleMark c then
      (0, { follower := right.follower })
    else
      match right.follower.joinWith? c with
      | some (columns, follower) => (columns, { follower })
      | none => alone

/-- The columns of a text, and what its beginning is to a character before it. -/
def columnsFrom : List Char → Int × RightContext
  | [] => (0, {})
  | c :: rest =>
      let (columns, right) := columnsFrom rest
      let (added, right) := addChar c right
      (columns + added, right)

/-- The columns of a text. -/
def textColumns (text : List Char) : Nat := (columnsFrom text).1.toNat

end StreamPlot
