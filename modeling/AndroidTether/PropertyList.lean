import AndroidTether.PlainText
import Mathlib.Data.List.Infix

/-!
# Reading property lists

Character data of XML 1.0 documents, and the arrays of strings that an XML
property list holds under its keys.  Comments, CDATA sections and processing
instructions inside a string are not read; no text with such markup stands
for itself.
-/

namespace Xml

/-- The characters that a document may contain. -/
def isChar (c : Char) : Bool :=
  c ∈ ['\t', '\n', '\r'] ∨ 0x20 ≤ c.toNat ∧ c.toNat ≠ 0xFFFE ∧ c.toNat ≠ 0xFFFF

def isSpace (c : Char) : Bool :=
  c ∈ [' ', '\t', '\n', '\r']

/-- What a reader sees of the line ends of a document. -/
def normalise : Text → Text
  | [] => []
  | c :: rest =>
      if c = '\r' then
        if rest.head? = some '\n' then normalise rest
        else '\n' :: normalise rest
      else c :: normalise rest

def digit (base : Nat) (c : Char) : Option Nat :=
  let value :=
    if c.isDigit then c.toNat - '0'.toNat
    else if 'a' ≤ c ∧ c ≤ 'f' then c.toNat - 'a'.toNat + 10
    else if 'A' ≤ c ∧ c ≤ 'F' then c.toNat - 'A'.toNat + 10
    else base
  if value < base then some value else none

def number (base : Nat) (digits : Text) : Option Nat :=
  if digits = [] then none
  else digits.foldlM (fun value c => (digit base c).map (base * value + ·)) 0

/-- The legal character with a code. -/
def charOf (code : Nat) : Option Char :=
  let c := Char.ofNat code
  if c.toNat = code ∧ isChar c then some c else none

/-- What stands between `&` and `;`. -/
def reference (name : Text) : Option Char :=
  match name with
  | '#' :: 'x' :: digits => (number 16 digits).bind charOf
  | '#' :: digits => (number 10 digits).bind charOf
  | _ =>
      match String.ofList name with
      | "lt" => some '<'
      | "gt" => some '>'
      | "amp" => some '&'
      | "apos" => some '\''
      | "quot" => some '"'
      | _ => none

/-- Characters and references; `pending` is what has been read of a
reference. -/
def decode : Option Text → Text → Option Text
  | none, [] => some []
  | some _, [] => none
  | none, c :: rest =>
      if c = '&' then decode (some []) rest
      else if isChar c then (decode none rest).map (c :: ·)
      else none
  | some name, c :: rest =>
      if c = ';' then
        (reference name).bind fun char => (decode none rest).map (char :: ·)
      else decode (some (name ++ [c])) rest

/-- The text that character data stands for. -/
def characterData (content : Text) : Option Text :=
  if "]]>".toList <:+: content then none else decode none (normalise content)

/-- A tag without its brackets, and the text behind it. -/
structure Tag where
  name : Text
  content : Text
  deriving DecidableEq

def readTag (piece : Text) : Tag :=
  ⟨piece.takeWhile (· ≠ '>'), (piece.dropWhile (· ≠ '>')).tail⟩

/-- The tags of a document.  What stands before the first one counts as a tag
too. -/
def tags (document : Text) : List Tag :=
  (document.splitOn '<').map readTag

theorem length_normalise_le (text : Text) :
    (normalise text).length ≤ text.length := by
  induction text with
  | nil => rfl
  | cons c rest ih =>
      rw [normalise]
      split_ifs <;> simp only [List.length_cons] <;> omega

/-- Line ends that are not changed have no carriage return. -/
theorem normalise_eq_self_iff {text : Text} :
    normalise text = text ↔ '\r' ∉ text := by
  induction text with
  | nil => simp [normalise]
  | cons c rest ih =>
      have shorter := length_normalise_le rest
      rw [normalise, List.mem_cons, not_or]
      split_ifs with return_ feed
      · subst return_
        refine ⟨fun same => ?_, fun absent => absurd rfl absent.1⟩
        rw [same, List.length_cons] at shorter
        omega
      · subst return_
        exact ⟨fun same => absurd (List.cons.inj same).1 (by decide),
          fun absent => absurd rfl absent.1⟩
      · rw [List.cons.injEq, ih]
        exact ⟨fun same => ⟨Ne.symm return_, same.2⟩,
          fun absent => ⟨rfl, absent.2⟩⟩

theorem length_decode {pending : Option Text} {content text : Text}
    (decoded : decode pending content = some text) :
    text.length ≤ content.length := by
  induction content generalizing pending text with
  | nil =>
      cases pending with
      | none => cases decoded; rfl
      | some name => cases decoded
  | cons c rest ih =>
      rw [List.length_cons]
      cases pending with
      | none =>
          rw [decode] at decoded
          split_ifs at decoded with amp legal
          · exact (ih decoded).trans (Nat.le_succ _)
          · obtain ⟨tail, tailDecoded, rfl⟩ := Option.map_eq_some_iff.mp decoded
            exact Nat.succ_le_succ (ih tailDecoded)
      | some name =>
          rw [decode] at decoded
          split_ifs at decoded with ends
          · obtain ⟨char, -, mapped⟩ := Option.bind_eq_some_iff.mp decoded
            obtain ⟨tail, tailDecoded, rfl⟩ := Option.map_eq_some_iff.mp mapped
            exact Nat.succ_le_succ (ih tailDecoded)
          · exact (ih decoded).trans (Nat.le_succ _)

/-- Content that loses no character has no references. -/
theorem decode_none_of_length {content text : Text}
    (decoded : decode none content = some text)
    (length : content.length ≤ text.length) :
    text = content ∧ '&' ∉ content ∧ ∀ c ∈ content, isChar c := by
  induction content generalizing text with
  | nil =>
      cases decoded
      exact ⟨rfl, List.not_mem_nil, nofun⟩
  | cons c rest ih =>
      rw [decode] at decoded
      split_ifs at decoded with amp legal
      · have shorter := length_decode decoded
        rw [List.length_cons] at length
        omega
      · obtain ⟨tail, tailDecoded, rfl⟩ := Option.map_eq_some_iff.mp decoded
        obtain ⟨rfl, absent, legalTail⟩ :=
          ih tailDecoded (Nat.le_of_succ_le_succ length)
        refine ⟨rfl, ?_, List.forall_mem_cons.mpr ⟨legal, legalTail⟩⟩
        rw [List.mem_cons, not_or]
        exact ⟨Ne.symm amp, absent⟩

theorem decode_none_of_legal {content : Text} (absent : '&' ∉ content)
    (legal : ∀ c ∈ content, isChar c) : decode none content = some content := by
  induction content with
  | nil => rfl
  | cons c rest ih =>
      rw [List.mem_cons, not_or] at absent
      rw [List.forall_mem_cons] at legal
      rw [decode, if_neg (Ne.symm absent.1), if_pos legal.1,
        ih absent.2 legal.2, Option.map_some]

theorem characterData_eq_self_iff {text : Text} :
    characterData text = some text ↔
      (∀ c ∈ text, isChar c) ∧ '&' ∉ text ∧ '\r' ∉ text ∧
        ¬ "]]>".toList <:+: text := by
  rw [characterData]
  split_ifs with sectionEnd
  · exact ⟨nofun, fun plain => absurd sectionEnd plain.2.2.2⟩
  · constructor
    · intro decoded
      obtain ⟨same, absent, legal⟩ :=
        decode_none_of_length decoded (length_normalise_le text)
      rw [← same] at absent legal
      exact ⟨legal, absent, normalise_eq_self_iff.mp same.symm, sectionEnd⟩
    · rintro ⟨legal, absent, noReturn, -⟩
      rw [normalise_eq_self_iff.mpr noReturn]
      exact decode_none_of_legal absent legal

theorem length_characterData {content text : Text}
    (decoded : characterData content = some text) :
    text.length ≤ content.length := by
  rw [characterData] at decoded
  split_ifs at decoded
  exact (length_decode decoded).trans (length_normalise_le content)

theorem tags_append (before after : Text) :
    tags (before ++ '<' :: after) = tags before ++ tags after := by
  rw [tags, List.splitOn_append_cons_self, List.map_append, tags, tags]

theorem tags_single {name content : Text} (closed : '>' ∉ name)
    (noMarkup : '<' ∉ name ++ '>' :: content) :
    tags (name ++ '>' :: content) = [⟨name, content⟩] := by
  rw [tags, List.splitOn_eq_singleton noMarkup, List.map_singleton, readTag,
    Text.takeWhile_ne closed, Text.dropWhile_ne closed, List.tail_cons]

theorem tags_cons {name content : Text} (closed : '>' ∉ name)
    (noMarkup : '<' ∉ name ++ '>' :: content) (after : Text) :
    tags (name ++ '>' :: (content ++ '<' :: after)) =
      ⟨name, content⟩ :: tags after := by
  rw [← List.cons_append, ← List.append_assoc, tags_append,
    tags_single closed noMarkup, List.singleton_append]

theorem tags_first {name : Text} (closed : '>' ∉ name) (open_ : '<' ∉ name)
    (after : Text) :
    ∃ content more, tags (name ++ '>' :: after) = ⟨name, content⟩ :: more ∧
      content <+: after ∧ ('<' ∈ after → content.length < after.length) := by
  by_cases member : '<' ∈ after
  · obtain ⟨content, rest, rfl, absent⟩ := List.eq_append_cons_of_mem member
    refine ⟨content, tags rest, ?_, List.prefix_append _ _, fun _ => by simp⟩
    exact tags_cons closed (by simp [open_, absent]) rest
  · refine ⟨after, [], ?_, List.prefix_refl _, fun found => absurd found member⟩
    exact tags_single closed (by simp [open_, member])

end Xml

namespace PropertyList

open Xml

def stringName : Text := "string".toList

def stringEnd : Text := "/string".toList

def arrayEnd : Text := "/array".toList

/-- The strings of an array, whose opening tag has been read. -/
def strings : List Tag → Option (List Text)
  | [] => none
  | tag :: rest =>
      if tag.name = arrayEnd then some []
      else match rest with
        | [] => none
        | closing :: rest =>
            if tag.name = stringName ∧ closing.name = stringEnd ∧
                closing.content.all isSpace then do
              let first ← characterData tag.content
              let more ← strings rest
              return first :: more
            else none

/-- The array of strings under a key. -/
def arrayAt (key : Text) : List Tag → Option (List Text)
  | [] => none
  | tag :: rest =>
      if tag = ⟨"key".toList, key⟩ then
        match rest with
        | closing :: array :: rest =>
            if closing.name = "/key".toList ∧ closing.content.all isSpace ∧
                array.name = "array".toList ∧ array.content.all isSpace then
              strings rest
            else none
        | _ => none
      else arrayAt key rest

/-- A text that stands for itself inside a string element. -/
structure Plain (text : Text) : Prop where
  legal : ∀ c ∈ text, isChar c
  noMarkup : '<' ∉ text
  noReference : '&' ∉ text
  noReturn : '\r' ∉ text
  noSectionEnd : ¬ "]]>".toList <:+: text

theorem Plain.characterData_eq {text : Text} (plain : Plain text) :
    characterData text = some text :=
  characterData_eq_self_iff.mpr
    ⟨plain.legal, plain.noReference, plain.noReturn, plain.noSectionEnd⟩

/-- A character that no rule is about. -/
def isOrdinary (c : Char) : Bool :=
  isChar c ∧ c ∉ ['<', '&', '\r', '>']

theorem plain_of_ordinary {text : Text} (all : text.all isOrdinary) :
    Plain text := by
  have ordinary : ∀ c ∈ text, isChar c ∧ c ∉ ['<', '&', '\r', '>'] :=
    fun c member => of_decide_eq_true (List.all_eq_true.mp all c member)
  have noEnd : '>' ∉ text := fun member =>
    absurd (ordinary _ member).2 (by decide)
  exact {
    legal := fun c member => (ordinary c member).1
    noMarkup := fun member => absurd (ordinary _ member).2 (by decide)
    noReference := fun member => absurd (ordinary _ member).2 (by decide)
    noReturn := fun member => absurd (ordinary _ member).2 (by decide)
    noSectionEnd := fun inside => noEnd (inside.subset (by decide)) }

@[simp]
theorem strings_end (content : Text) (rest : List Tag) :
    strings (⟨arrayEnd, content⟩ :: rest) = some [] := by
  cases rest <;> rfl

theorem stringName_ne_arrayEnd : ¬ stringName = arrayEnd := by
  decide

/-- A string element at the front of an array. -/
theorem strings_plain {text : Text} (plain : Plain text) {gap : Text}
    (space : gap.all isSpace) (rest : List Tag) :
    strings (tags (stringName ++ '>' :: text) ++
        ⟨stringEnd, gap⟩ :: rest) =
      (strings rest).map (text :: ·) := by
  rw [tags_single (by decide) (by simpa using ⟨by decide, plain.noMarkup⟩),
    List.singleton_append, strings, if_neg stringName_ne_arrayEnd]
  simp only [space, and_self, if_true, plain.characterData_eq]
  cases strings rest <;> rfl

/-- A string element as it is written. -/
def element (indent text : Text) : Text :=
  indent ++ '<' :: (stringName ++ '>' :: (text ++ '<' :: (stringEnd ++ ['>'])))

theorem element_append (indent text rest : Text) :
    element indent text ++ rest =
      indent ++ '<' :: (stringName ++ '>' ::
        (text ++ '<' :: (stringEnd ++ '>' :: rest))) := by
  simp [element]

/-- The string elements behind another one, up to the end of the array. -/
theorem strings_elements {indent ending : Text} (indentSpace : indent.all isSpace)
    (endingSpace : ending.all isSpace) (after : Text) {texts : List Text}
    (plain : ∀ text ∈ texts, Plain text) :
    ∃ gap more, tags (stringEnd ++ '>' ::
          (texts.flatMap (element indent) ++
            (ending ++ '<' :: (arrayEnd ++ '>' :: after)))) =
        ⟨stringEnd, gap⟩ :: more ∧
      gap.all isSpace ∧ strings more = some texts := by
  have noMarkup {gap : Text} (space : gap.all isSpace) :
      '<' ∉ stringEnd ++ '>' :: gap := by
    have outside : '<' ∉ gap := fun member =>
      absurd (List.all_eq_true.mp space _ member) (by decide)
    simpa using ⟨by decide, outside⟩
  induction texts with
  | nil =>
      obtain ⟨content, more, arrayEq, -, -⟩ :=
        @tags_first arrayEnd (by decide) (by decide) after
      refine ⟨ending, ⟨arrayEnd, content⟩ :: more, ?_, endingSpace,
        strings_end content more⟩
      rw [List.flatMap_nil, List.nil_append,
        tags_cons (by decide) (noMarkup endingSpace), arrayEq]
  | cons text texts ih =>
      rw [List.forall_mem_cons] at plain
      obtain ⟨gap, more, closing, space, read⟩ := ih plain.2
      refine ⟨indent, tags (stringName ++ '>' :: text) ++
        ⟨stringEnd, gap⟩ :: more, ?_, indentSpace, ?_⟩
      · rw [List.flatMap_cons, List.append_assoc, element_append,
          tags_cons (by decide) (noMarkup indentSpace), ← List.cons_append,
          ← List.append_assoc stringName, tags_append, closing]
      · rw [strings_plain plain.1 space, read, Option.map_some]

/-- Only a plain text is read back from a string element. -/
theorem plain_of_strings {text : Text} {rest : List Tag} {more : List Text}
    (read : strings (tags (stringName ++ '>' :: text) ++ rest) =
      some (text :: more)) : Plain text := by
  obtain ⟨content, others, tagsEq, isPrefix, shorter⟩ :=
    @tags_first stringName (by decide) (by decide) text
  rw [tagsEq, List.cons_append] at read
  cases closingEq : others ++ rest with
  | nil =>
      rw [closingEq] at read
      cases read
  | cons closing later =>
      rw [closingEq, strings, if_neg stringName_ne_arrayEnd] at read
      dsimp only at read
      split_ifs at read
      obtain ⟨first, decoded, read⟩ := Option.bind_eq_some_iff.mp read
      obtain ⟨tail, -, read⟩ := Option.bind_eq_some_iff.mp read
      cases read
      have length := length_characterData decoded
      have noMarkup : '<' ∉ text := fun found =>
        absurd (shorter found) (by omega)
      have same : content = text :=
        isPrefix.eq_of_length (Nat.le_antisymm isPrefix.length_le length)
      rw [same, characterData_eq_self_iff] at decoded
      exact ⟨decoded.1, noMarkup, decoded.2.1, decoded.2.2.1, decoded.2.2.2⟩

end PropertyList
