import InterfaceLint.Json.Cursor
import InterfaceLint.Json.Printer
import Mathlib.Data.String.Basic

/-!
# How values stand in a text

A text of a value has the tokens of the value with blanks between them, as
many as one likes.  Printing over several lines is one such layout.  Numbers
are naturals here: no other number is ever exported.
-/

set_option autoImplicit false

namespace InterfaceLint.Json

def Blank (gap : List Char) : Prop := ∀ c ∈ gap, isBlank c = true

mutual

/-- The text is a layout of the value. -/
inductive Written : Value → List Char → Prop
  | null : Written .null ['n', 'u', 'l', 'l']
  | yes : Written (.bool true) ['t', 'r', 'u', 'e']
  | no : Written (.bool false) ['f', 'a', 'l', 's', 'e']
  | natural (count : UInt64) :
      Written (.number (.natural count)) (Nat.toDigits 10 count.toNat)
  | text (content : String) : Written (.text content) (printString content).toList
  | emptyList {gap : List Char} (blank : Blank gap) :
      Written (.list []) ('[' :: (gap ++ [']']))
  | list {items : List Value} {body : List Char} (elements : WrittenItems items body) :
      Written (.list items) ('[' :: (body ++ [']']))
  | emptyObject {gap : List Char} (blank : Blank gap) :
      Written (.object []) ('\x7b' :: (gap ++ ['\x7d']))
  | object {members : List (String × Value)} {body : List Char}
      (elements : WrittenMembers members body) :
      Written (.object members) ('\x7b' :: (body ++ ['\x7d']))

/-- The text is a layout of one or more elements with commas between them. -/
inductive WrittenItems : List Value → List Char → Prop
  | single {item : Value} {before body after : List Char} (blankBefore : Blank before)
      (written : Written item body) (blankAfter : Blank after) :
      WrittenItems [item] (before ++ (body ++ after))
  | cons {item : Value} {items : List Value} {before body after others : List Char}
      (blankBefore : Blank before) (written : Written item body) (blankAfter : Blank after)
      (elements : WrittenItems items others) :
      WrittenItems (item :: items) (before ++ (body ++ (after ++ ',' :: others)))

/-- The text is a layout of one or more members with commas between them. -/
inductive WrittenMembers : List (String × Value) → List Char → Prop
  | single {key : String} {content : Value} {before front back body after : List Char}
      (blankBefore : Blank before) (blankFront : Blank front) (blankBack : Blank back)
      (written : Written content body) (blankAfter : Blank after) :
      WrittenMembers [(key, content)]
        (before ++ ((printString key).toList ++ (front ++ ':' :: (back ++ (body ++ after)))))
  | cons {key : String} {content : Value} {members : List (String × Value)}
      {before front back body after others : List Char}
      (blankBefore : Blank before) (blankFront : Blank front) (blankBack : Blank back)
      (written : Written content body) (blankAfter : Blank after)
      (elements : WrittenMembers members others) :
      WrittenMembers ((key, content) :: members)
        (before ++ ((printString key).toList ++
          (front ++ ':' :: (back ++ (body ++ (after ++ ',' :: others))))))

end

/-- The text is a layout of the value with blanks around it. -/
def HeldBy (value : Value) (text : String) : Prop :=
  ∃ before body after, Blank before ∧ Written value body ∧ Blank after ∧
    text.toList = before ++ (body ++ after)

/-- Values that nest at most so many levels deep and whose numbers are naturals. -/
inductive Exportable : Nat → Value → Prop
  | null {levels : Nat} : Exportable levels .null
  | bool {levels : Nat} (flag : Bool) : Exportable levels (.bool flag)
  | natural {levels : Nat} (count : UInt64) : Exportable levels (.number (.natural count))
  | text {levels : Nat} (content : String) : Exportable levels (.text content)
  | list {levels : Nat} {items : List Value} (each : ∀ item ∈ items, Exportable levels item) :
      Exportable (levels + 1) (.list items)
  | object {levels : Nat} {members : List (String × Value)}
      (each : ∀ member ∈ members, Exportable levels member.2) :
      Exportable (levels + 1) (.object members)

theorem Exportable.mono {levels more : Nat} {value : Value} (exportable : Exportable levels value)
    (enough : levels ≤ more) : Exportable more value := by
  induction exportable generalizing more with
  | null => exact .null
  | bool flag => exact .bool flag
  | natural count => exact .natural count
  | text content => exact .text content
  | list each induction =>
      cases more with
      | zero => omega
      | succ more => exact .list fun item member => induction item member (by omega)
  | object each induction =>
      cases more with
      | zero => omega
      | succ more => exact .object fun item member => induction item member (by omega)

/-! ## Sizes -/

/-- What follows the opening quote of a string. -/
def stringTail (content : String) : List Char :=
  content.toList.flatMap (fun c => (printChar c).toList) ++ ['"']

theorem printString_toList (content : String) :
    (printString content).toList = '"' :: stringTail content := by
  simp [printString, stringTail, String.toList_join, List.flatMap_map]

theorem Written.length_pos {value : Value} {text : List Char} (written : Written value text) :
    0 < text.length := by
  cases written with
  | natural count => exact List.length_pos_iff.mpr Nat.toDigits_ne_nil
  | text content => simp [printString_toList]
  | null => simp
  | yes => simp
  | no => simp
  | emptyList blank => simp
  | list elements => simp
  | emptyObject blank => simp
  | object elements => simp

theorem WrittenItems.length_le : ∀ {items : List Value} {body : List Char},
    WrittenItems items body → items.length ≤ body.length := by
  intro items
  induction items with
  | nil => intro body _; exact Nat.zero_le _
  | cons item items induction =>
      intro body elements
      cases elements with
      | single _ written _ =>
          have positive := written.length_pos
          simp
          omega
      | cons _ written _ others =>
          have counted := induction others
          simp
          omega

theorem WrittenMembers.length_le : ∀ {members : List (String × Value)} {body : List Char},
    WrittenMembers members body → members.length ≤ body.length := by
  intro members
  induction members with
  | nil => intro body _; exact Nat.zero_le _
  | cons member members induction =>
      intro body elements
      cases elements with
      | single => simp; omega
      | cons _ _ _ _ _ others =>
          have counted := induction others
          simp
          omega

/-! ## Printing over several lines -/

theorem blank_newline (level : Nat) : Blank (newline level).toList := by
  intro c member
  simp only [newline, String.toList_append, String.toList_ofList, List.mem_append,
    List.mem_replicate] at member
  rcases member with start | indent
  · obtain rfl : c = '\n' := by simpa using start
    rfl
  · rw [indent.2]
    rfl

theorem Blank.nil : Blank [] := by simp [Blank]

theorem writtenItems_print {level : Nat} {item : Value} {items : List Value}
    (each : ∀ other ∈ item :: items, Written other (other.print level).toList)
    {before after : List Char} (blankBefore : Blank before) (blankAfter : Blank after) :
    WrittenItems (item :: items)
      (before ++ ((item.print level).toList ++ ((printItems level items).toList ++ after))) := by
  induction items generalizing item before with
  | nil =>
      have first := each item List.mem_cons_self
      simpa [printItems] using WrittenItems.single blankBefore first blankAfter
  | cons next items induction =>
      have first := each item List.mem_cons_self
      have others := induction
        (fun other member => each other (List.mem_cons_of_mem _ member)) (blank_newline level)
      have whole := WrittenItems.cons blankBefore first Blank.nil others
      simpa [printItems] using whole

theorem writtenMembers_print {level : Nat} {member : String × Value}
    {members : List (String × Value)}
    (each : ∀ other ∈ member :: members, Written other.2 (other.2.print level).toList)
    {before after : List Char} (blankBefore : Blank before) (blankAfter : Blank after) :
    WrittenMembers (member :: members)
      (before ++ ((printString member.1).toList ++ (": ".toList ++
        ((member.2.print level).toList ++ ((printMembers level members).toList ++ after))))) := by
  have space : Blank [' '] := by simp [Blank, isBlank]
  induction members generalizing member before with
  | nil =>
      have first := each member List.mem_cons_self
      have whole : WrittenMembers [(member.1, member.2)] _ :=
        .single blankBefore Blank.nil space first blankAfter
      simpa [printMembers] using whole
  | cons next members induction =>
      have first := each member List.mem_cons_self
      have others := induction
        (fun other member => each other (List.mem_cons_of_mem _ member)) (blank_newline level)
      have whole : WrittenMembers ((member.1, member.2) :: next :: members) _ :=
        .cons blankBefore Blank.nil space first Blank.nil others
      simpa [printMembers] using whole

/-- Printing over several lines writes the value. -/
theorem Exportable.written_print {levels : Nat} {value : Value}
    (exportable : Exportable levels value) :
    ∀ level, Written value (value.print level).toList := by
  induction exportable with
  | null => intro level; simpa [Value.print] using Written.null
  | bool flag =>
      intro level
      cases flag with
      | true => simpa [Value.print] using Written.yes
      | false => simpa [Value.print] using Written.no
  | natural count =>
      intro level
      have digits : (Number.natural count).render.toList = Nat.toDigits 10 count.toNat := by
        simp [Number.render, Nat.toList_repr]
      rw [Value.print, digits]
      exact .natural count
  | text content => intro level; simpa [Value.print] using Written.text content
  | @list _ items each induction =>
      intro level
      cases items with
      | nil => simpa [Value.print] using Written.emptyList Blank.nil
      | cons item items =>
          have elements := writtenItems_print
            (fun (other : Value) (member : other ∈ item :: items) =>
              induction other member (level + 1)) (blank_newline (level + 1)) (blank_newline level)
          simpa [Value.print] using Written.list elements
  | @object _ members each induction =>
      intro level
      cases members with
      | nil => simpa [Value.print] using Written.emptyObject Blank.nil
      | cons first members =>
          have elements := writtenMembers_print
            (fun (other : String × Value) (member : other ∈ first :: members) =>
              induction other member (level + 1)) (blank_newline (level + 1)) (blank_newline level)
          simpa [Value.print] using Written.object elements

theorem Exportable.heldBy_pretty {levels : Nat} {value : Value}
    (exportable : Exportable levels value) : HeldBy value value.pretty :=
  ⟨[], _, [], Blank.nil, exportable.written_print 0, Blank.nil, by simp [Value.pretty]⟩

end InterfaceLint.Json
