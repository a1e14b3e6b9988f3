import InterfaceLint.Text.WidthTables

/-!
# Display width

The columns a text takes in a terminal.  Most characters count on their own:
none for marks, two for wide characters, one for all others.  Some sequences
count as a whole, namely emoji with their selectors, joiners, skin tones and
flags, and a few ligatures.  The text is measured from its end, so that a
character knows what follows it.
-/

set_option autoImplicit false

namespace InterfaceLint.Text

/-- What stands to the right of a character, as far as it matters. -/
inductive Following where
  | other
  | lineFeed
  | skinTone
  | flagHalf
  | flagHalves
  | emoji
  /-- A joiner before an emoji. -/
  | joinedEmoji
  /-- A keycap before a joined emoji. -/
  | joinedKeycap
  /-- One, an even and an odd number of flag halves before a joined emoji. -/
  | joinedFlagHalf
  | joinedFlagEven
  | joinedFlagOdd
  /-- The end mark of a tag sequence before a joined emoji, with a number of tag
  letters in front of it. -/
  | joinedTag (letters : Nat)
  /-- The same with a number of tag digits in front of the letters. -/
  | joinedTagDigits (digits : Nat)
  | arabicAlef
  | hebrewLamed (joined : Bool)
  | khmerSubscript
  | bugineseYa (joined : Bool)
  | bugineseVowelYa
  | tifinaghConsonant (joined : Bool)
  | tifinaghJoined
  | lisuTone
  | turkicI (joined : Bool)
  | kiratE
  | kiratAi
  deriving DecidableEq

namespace Following

/-- Ligatures; selectors in between do not break them. -/
def isLigature : Following → Bool
  | .arabicAlef | .hebrewLamed _ | .khmerSubscript | .bugineseYa _ | .bugineseVowelYa
  | .tifinaghConsonant _ | .tifinaghJoined | .lisuTone | .turkicI _ => true
  | _ => false

/-- What a joiner makes of the ligatures that look through one. -/
def join? : Following → Option Following
  | .lisuTone => some .lisuTone
  | .khmerSubscript => some .khmerSubscript
  | .bugineseVowelYa => some .bugineseVowelYa
  | .tifinaghJoined => some .tifinaghJoined
  | .hebrewLamed _ => some (.hebrewLamed true)
  | .bugineseYa _ => some (.bugineseYa true)
  | .tifinaghConsonant _ => some (.tifinaghConsonant true)
  | .turkicI _ => some (.turkicI true)
  | _ => none

def isJoinedEmoji : Following → Bool
  | .joinedEmoji | .joinedKeycap => true
  | _ => false

end Following

structure Selectors where
  emoji : Bool := false
  text : Bool := false
  /-- Asks for the wide form of a quotation mark. -/
  wide : Bool := false
  deriving DecidableEq

structure Context where
  following : Following
  selectors : Selectors
  deriving DecidableEq

namespace Context

def start : Context := ⟨.other, {}⟩

def after (following : Following) : Context := ⟨following, {}⟩

/-- The context in front of a selector.  In front of a ligature selectors add
up; anything else is broken by one. -/
def select (context : Context) (add : Selectors → Selectors) : Context :=
  if context.following.isLigature then ⟨context.following, add context.selectors⟩
  else ⟨.other, add {}⟩

def selectText (context : Context) : Context :=
  context.select fun selectors => { selectors with text := true }

def selectWide (context : Context) : Context :=
  context.select fun selectors => { selectors with wide := true }

/-- An emoji selector may also stand once in front of a joined emoji. -/
def selectEmoji (context : Context) : Context :=
  if context.following.isJoinedEmoji && !context.selectors.emoji then
    ⟨context.following, { emoji := true }⟩
  else context.select fun selectors => { selectors with emoji := true }

/-- Forget an emoji selector that its character does not use. -/
def withoutEmoji (context : Context) : Context :=
  if context.following.isLigature then
    ⟨context.following, { context.selectors with emoji := false }⟩
  else start

def unselected (context : Context) : Context := .after context.following

end Context

def isBetween (low high : Nat) (c : Char) : Bool := low ≤ c.toNat && c.toNat ≤ high

def isFlagHalf (c : Char) : Bool := isBetween 0x1F1E6 0x1F1FF c

def isSkinTone (c : Char) : Bool := isBetween 0x1F3FB 0x1F3FF c

def isQuotationMark (c : Char) : Bool := [0x2018, 0x2019, 0x201C, 0x201D].contains c.toNat

def isTifinaghConsonant (c : Char) : Bool := isBetween 0x2D31 0x2D65 c || c.toNat == 0x2D6F

def isTagLetter (c : Char) : Bool := isBetween 0xE0061 0xE007A c

def isTagDigit (c : Char) : Bool := isBetween 0xE0030 0xE0039 c

/-- Arabic letters that join with a lam before them. -/
def isArabicAlef (c : Char) : Bool :=
  [0x622, 0x623, 0x625, 0x627, 0x671, 0x672, 0x673, 0x675, 0x773, 0x774].contains c.toNat ||
    isBetween 0x870 0x882 c

def isArabicLam (c : Char) : Bool :=
  [0x644, 0x76A, 0x8A6, 0x8C7].contains c.toNat || isBetween 0x6B5 0x6B8 c

/-- Khmer letters that take a subscript form. -/
def khmerSubscripts : Ranges :=
  [(0x1780, 0x1782), (0x1784, 0x1787), (0x1789, 0x178C), (0x178E, 0x1793), (0x1795, 0x1798),
    (0x179B, 0x179D), (0x17A0, 0x17A0), (0x17A2, 0x17A2), (0x17A7, 0x17A7), (0x17AB, 0x17AC),
    (0x17AF, 0x17AF)]

/-- Characters that ligatures look through. -/
def lookedThrough : Ranges :=
  [(0x34F, 0x34F), (0x17B4, 0x17B5), (0x180B, 0x180D), (0x180F, 0x180F), (0xFE00, 0xFE0F),
    (0xE0100, 0xE01EF)]

def charWidth (c : Char) : Nat :=
  if c.toNat ≤ 0xA0 then 1
  else if c.toNat = 0x2D7F then 1
  else if c.toNat = 0x115F || c.toNat = 0x17A4 then 2
  else if c.toNat = 0x17D8 then 3
  else if zeroWidth.has c then 0
  else if wide.has c then 2
  else 1

def asFollowing (c : Char) : Context :=
  let code := c.toNat
  if code = 0xFE0F then Context.start.selectEmoji
  else if code = 0xFE0E then Context.start.selectText
  else if code = 0xFE01 then Context.start.selectWide
  else if isSkinTone c then .after .skinTone
  else if isFlagHalf c then .after .flagHalf
  else if isArabicAlef c then .after .arabicAlef
  else if code = 0x5DC then .after (.hebrewLamed false)
  else if khmerSubscripts.has c then .after .khmerSubscript
  else if code = 0x1A10 then .after (.bugineseYa false)
  else if isTifinaghConsonant c then .after (.tifinaghConsonant false)
  else if isBetween 0xA4FC 0xA4FD c then .after .lisuTone
  else if code = 0x10C03 then .after (.turkicI false)
  else if code = 0x16D67 then .after .kiratE
  else if code = 0x16D68 then .after .kiratAi
  else if emojiByDefault.has c then .after .emoji
  else .start

/-- The columns a character adds in front of the given context when the two
make a sequence, and the context it leaves.  Columns are negative where part
of what was counted is taken back. -/
def inSequence? (c : Char) (following : Following) : Option (Int × Context) :=
  let code := c.toNat
  let joiner := code = 0x200D
  match following with
  | .arabicAlef =>
    if isArabicLam c then some (0, .start)
    else if charWidth c = 0 && !joinStopping.has c then some (0, .after .arabicAlef)
    else none
  | .hebrewLamed true => if code = 0x5D0 then some (0, .start) else none
  | .khmerSubscript => if code = 0x17D2 then some (-1, .start) else none
  | .bugineseYa true => if code = 0x1A17 then some (0, .after .bugineseVowelYa) else none
  | .bugineseVowelYa => if code = 0x1A15 then some (0, .start) else none
  | .tifinaghConsonant joined =>
    if code = 0x2D7F then some (1, .after .tifinaghJoined)
    else if joined && isTifinaghConsonant c then some (0, .start)
    else none
  | .tifinaghJoined => if isTifinaghConsonant c then some (-1, .start) else none
  | .lisuTone => if isBetween 0xA4F8 0xA4FB c then some (0, .start) else none
  | .turkicI true => if code = 0x10C32 then some (0, .start) else none
  | .skinTone =>
    if modifierBase.has c then some (0, .after .emoji)
    else if joiner then some (0, .after .joinedEmoji)
    else none
  | .flagHalf => if isFlagHalf c then some (1, .after .flagHalves) else none
  | .flagHalves =>
    if isFlagHalf c then some (1, .after .flagHalves)
    else if joiner then some (0, .after .joinedEmoji)
    else none
  | .emoji => if joiner then some (0, .after .joinedEmoji) else none
  | .joinedEmoji =>
    if code = 0x20E3 then some (0, .after .joinedKeycap)
    else if isFlagHalf c then some (1, .after .joinedFlagHalf)
    else if isSkinTone c then some (0, .after .skinTone)
    else if code = 0xE007F then some (0, .after (.joinedTag 0))
    else if emojiByDefault.has c then some (0, .after .emoji)
    else none
  | .joinedFlagHalf | .joinedFlagOdd =>
    if isFlagHalf c then some (-1, .after .joinedFlagEven)
    else if joiner && following = .joinedFlagOdd then some (0, .after .joinedEmoji)
    else none
  | .joinedFlagEven =>
    if isFlagHalf c then some (3, .after .joinedFlagOdd)
    else if joiner then some (0, .after .joinedEmoji)
    else none
  | .joinedTag letters =>
    if isTagLetter c && letters < 6 then some (0, .after (.joinedTag (letters + 1)))
    else if isTagDigit c && letters < 5 then some (0, .after (.joinedTagDigits 1))
    else if code = 0x1F3F4 && 3 ≤ letters then some (0, .after .emoji)
    else none
  | .joinedTagDigits digits =>
    if isTagDigit c && digits < 3 then some (0, .after (.joinedTagDigits (digits + 1)))
    else if code = 0x1F3F4 && digits = 3 then some (0, .after .emoji)
    else none
  | .kiratE =>
    if code = 0x16D63 || code = 0x16D69 then some (0, .start)
    else if code = 0x16D67 then some (0, .after .kiratAi)
    else if code = 0x16D68 then some (1, .after .kiratE)
    else none
  | .kiratAi => if code = 0x16D63 then some (0, .start) else none
  | _ => none

/-- The columns a character adds in front of a context without an emoji
selector for it, and the context it leaves. -/
def measureChar (c : Char) (context : Context) : Int × Context :=
  if c.toNat ≤ 0xA0 then
    if c = '\n' then (1, .after .lineFeed)
    else if c = '\r' && context.following = .lineFeed then (0, .start)
    else (1, .start)
  else if context = .start then (charWidth c, asFollowing c)
  else if c.toNat = 0xFE0F then (0, context.selectEmoji)
  else if c.toNat = 0xFE0E then (0, context.selectText)
  else if c.toNat = 0xFE01 then (0, context.selectWide)
  else if context.selectors.text && textSelectable.has c then (1, .start)
  else if context.selectors.wide && isQuotationMark c then (2, .start)
  else
    let context := context.unselected
    let sequence? : Option (Int × Context) :=
      match context.following.join? with
      | some joined =>
        if c.toNat = 0x200D then some (0, .after joined)
        else if lookedThrough.has c then some (0, context)
        else inSequence? c context.following
      | none => inSequence? c context.following
    sequence?.getD (charWidth c, asFollowing c)

/-- The columns a character adds in front of a context, and the context it
leaves.  A character that an emoji selector follows counts as an emoji. -/
def measure (c : Char) (context : Context) : Int × Context :=
  if context.selectors.emoji then
    if emojiSelectable.has c then
      (if context.following.isJoinedEmoji then 0 else 2, .after .emoji)
    else measureChar c context.withoutEmoji
  else measureChar c context

def width (text : List Char) : Nat :=
  (text.foldr (fun c (columns, context) =>
    let (added, context) := measure c context
    (columns + added, context)) ((0 : Int), Context.start)).1.toNat

end InterfaceLint.Text
