import Switchyard.Proofs.Json.Printing
import Switchyard.Proofs.Numeral

/-! The grammar of texts: values, with blanks between their parts. It is about form alone.
Numbers may be of any size, nesting has no limit, and surrogates need no partner. -/

namespace Switchyard

namespace Json

open Reader

/-- Characters that may stand between the parts of a text and mean nothing there. -/
abbrev Blanks := {cs : List Char // ∀ c ∈ cs, Reader.isBlank c = true}

abbrev Blanks.none : Blanks := ⟨[], List.forall_mem_nil _⟩

def Blanks.append (a b : Blanks) : Blanks := ⟨a.1 ++ b.1, List.forall_mem_append.mpr ⟨a.2, b.2⟩⟩

structure Padded where
  before : Blanks
  value : List Char
  after : Blanks

structure Entry where
  before : Blanks
  key : List Char
  between : Blanks
  value : Padded

def Entry.bare (e : Entry) : List Char × List Char := (e.key, e.value.value)

def Padded.onto (p : Padded) (rest : List Char) : List Char :=
  p.before.1 ++ (p.value ++ (p.after.1 ++ rest))

def Entry.onto (e : Entry) (rest : List Char) : List Char :=
  e.before.1 ++ '"' :: (e.key ++ '"' :: (e.between.1 ++ ':' :: e.value.onto rest))

def itemsOnto : (first : Bool) → List Padded → List Char → List Char
  | _, [], rest => rest
  | first, p :: ps, rest => comma first ++ p.onto (itemsOnto false ps rest)

def entriesOnto : (first : Bool) → List Entry → List Char → List Char
  | _, [], rest => rest
  | first, e :: es, rest => comma first ++ e.onto (entriesOnto false es rest)

def listText (items : List Padded) (inside : Blanks) : List Char :=
  '[' :: itemsOnto true items (inside.1 ++ [']'])

def objectText (entries : List Entry) (inside : Blanks) : List Char :=
  '\x7b' :: entriesOnto true entries (inside.1 ++ ['\x7d'])

inductive IsStringBody : List Char → Prop
  | nil : IsStringBody []
  | plain {c : Char} {body : List Char} : c ≠ '"' → c ≠ '\\' → ¬ c.toNat < 0x20 →
    IsStringBody body → IsStringBody (c :: body)
  | escaped {c : Char} {body : List Char} : (simpleEscape? c).isSome → IsStringBody body →
    IsStringBody ('\\' :: c :: body)
  | unicode {a b c d : Char} {body : List Char} :
    (∀ x ∈ [a, b, c, d], (hexDigit? x).isSome) → IsStringBody body →
    IsStringBody ('\\' :: 'u' :: a :: b :: c :: d :: body)

/-- The literals of numbers: no other digit stands behind a zero in front. -/
def IsNumber (text : List Char) : Prop :=
  ∃ p : Numeral.Parts, p.Spells text ∧ (p.whole.head? = some '0' → p.whole = ['0'])

inductive IsValue : List Char → Prop
  | word {w : String} : w ∈ ["null", "true", "false"] → IsValue w.toList
  | number {text : List Char} : IsNumber text → IsValue text
  | string {body : List Char} : IsStringBody body → IsValue ('"' :: (body ++ ['"']))
  | list {items : List Padded} {inside : Blanks} : (∀ p ∈ items, IsValue p.value) →
    IsValue (listText items inside)
  | object {entries : List Entry} {inside : Blanks} : (∀ e ∈ entries, IsStringBody e.key) →
    (∀ e ∈ entries, IsValue e.value.value) → IsValue (objectText entries inside)

structure Entry.IsMember (e : Entry) : Prop where
  key : IsStringBody e.key
  value : IsValue e.value.value

theorem isValue_objectText {entries : List Entry} {inside : Blanks}
    (h : ∀ e ∈ entries, e.IsMember) : IsValue (objectText entries inside) :=
  .object (fun e he => (h e he).key) fun e he => (h e he).value

def IsText (text : List Char) : Prop := ∃ p : Padded, IsValue p.value ∧ text = p.onto []

theorem skipBlanks_append (b : Blanks) (cs : List Char) :
    skipBlanks (b.1 ++ cs) = skipBlanks cs := List.dropWhile_append_of_pos b.2

theorem exists_skipBlanks (cs : List Char) : ∃ b : Blanks, cs = b.1 ++ skipBlanks cs :=
  ⟨⟨cs.takeWhile Reader.isBlank, fun _ => List.mem_takeWhile_imp⟩,
    List.takeWhile_append_dropWhile.symm⟩

theorem exists_of_skipBlanks_eq {cs text : List Char} (h : skipBlanks cs = text) :
    ∃ b : Blanks, cs = b.1 ++ text := by
  rw [← h]
  exact exists_skipBlanks cs

theorem skipBlanks_eq_nil_iff {cs : List Char} :
    skipBlanks cs = [] ↔ ∃ b : Blanks, cs = b.1 := by
  constructor
  · intro h
    exact ⟨⟨cs, List.dropWhile_eq_nil_iff.mp h⟩, rfl⟩
  · rintro ⟨b, rfl⟩
    exact List.dropWhile_eq_nil_iff.mpr b.2

theorem continues_of_isBlank {c : Char} (h : Reader.isBlank c = true) : continues c = false := by
  simp only [Reader.isBlank, Bool.or_eq_true, beq_iff_eq] at h
  rcases h with ((rfl | rfl) | rfl) | rfl <;> decide

theorem ends_append (b : Blanks) {cs : List Char} (h : Ends cs) : Ends (b.1 ++ cs) := by
  obtain ⟨blanks, hblank⟩ := b
  cases blanks with
  | nil => exact h
  | cons c rest => exact Ends.cons _ (continues_of_isBlank (hblank c List.mem_cons_self))

theorem ends_blanks (b : Blanks) : Ends b.1 := by
  have h := ends_append b Ends.nil
  rwa [List.append_nil] at h

theorem ends_itemsOnto (items : List Padded) (inside : Blanks) (rest : List Char) :
    Ends (itemsOnto false items (inside.1 ++ ']' :: rest)) := by
  cases items with
  | nil => exact ends_append inside (Ends.cons _ (by decide))
  | cons p ps => exact Ends.cons _ (by decide)

theorem ends_entriesOnto (entries : List Entry) (inside : Blanks) (rest : List Char) :
    Ends (entriesOnto false entries (inside.1 ++ '\x7d' :: rest)) := by
  cases entries with
  | nil => exact ends_append inside (Ends.cons _ (by decide))
  | cons e es => exact Ends.cons _ (by decide)

theorem Padded.onto_append (p : Padded) (rest more : List Char) :
    p.onto rest ++ more = p.onto (rest ++ more) := by
  simp only [onto, List.append_assoc]

theorem Entry.onto_append (e : Entry) (rest more : List Char) :
    e.onto rest ++ more = e.onto (rest ++ more) := by
  simp only [onto, List.append_assoc, List.cons_append, Padded.onto_append]

theorem itemsOnto_append (first : Bool) (items : List Padded) (rest more : List Char) :
    itemsOnto first items rest ++ more = itemsOnto first items (rest ++ more) := by
  induction items generalizing first with
  | nil => rfl
  | cons p ps ih => simp only [itemsOnto, List.append_assoc, Padded.onto_append, ih]

theorem entriesOnto_append (first : Bool) (entries : List Entry) (rest more : List Char) :
    entriesOnto first entries rest ++ more = entriesOnto first entries (rest ++ more) := by
  induction entries generalizing first with
  | nil => rfl
  | cons e es ih => simp only [entriesOnto, List.append_assoc, Entry.onto_append, ih]

theorem listText_append (items : List Padded) (inside : Blanks) (rest : List Char) :
    listText items inside ++ rest = '[' :: itemsOnto true items (inside.1 ++ ']' :: rest) := by
  rw [listText, List.cons_append, itemsOnto_append, List.append_assoc]
  rfl

theorem objectText_append (entries : List Entry) (inside : Blanks) (rest : List Char) :
    objectText entries inside ++ rest =
      '\x7b' :: entriesOnto true entries (inside.1 ++ '\x7d' :: rest) := by
  rw [objectText, List.cons_append, entriesOnto_append, List.append_assoc]
  rfl

end Json

namespace Numeral

theorem SpellsExponent.exponentPart {e : Int} {tail : List Char} (h : SpellsExponent e tail) :
    Json.Reader.ExponentPart tail := by
  cases h with
  | absent => exact .absent
  | present hletter hsign hne hds =>
    refine .present hletter ?_ hne hds
    cases hsign with
    | absent => exact .inl rfl
    | plus => exact .inr (.inl rfl)
    | minus => exact .inr (.inr rfl)

theorem Parts.Spells.exists_plainLiteral {p : Parts} {text : List Char} (h : p.Spells text) :
    ∃ plain, Json.Reader.PlainLiteral plain ∧ text = signed p.negative plain := by
  obtain ⟨negative, whole, fraction, e⟩ := p
  obtain @⟨after, hne, hwhole, hafter⟩ := h
  refine ⟨whole ++ after, ?_, rfl⟩
  dsimp only at hne hwhole hafter
  cases hafter with
  | whole htail => exact .whole hne hwhole htail.exponentPart
  | fraction hfne hfs htail => exact .fraction hne hwhole hfne hfs htail.exponentPart

end Numeral

namespace Json

theorem IsValue.exists_head {text : List Char} (h : IsValue text) :
    ∃ c cs, text = c :: cs ∧ opens c = true := by
  cases h with
  | word hw =>
    simp only [List.mem_cons, List.not_mem_nil, or_false] at hw
    rcases hw with rfl | rfl | rfl <;> exact ⟨_, _, rfl, by decide⟩
  | number h =>
    obtain ⟨p, hp, -⟩ := h
    obtain ⟨plain, hplain, rfl⟩ := hp.exists_plainLiteral
    exact exists_signed_eq hplain
  | string => exact ⟨_, _, rfl, by decide⟩
  | list => exact ⟨_, _, rfl, by decide⟩
  | object => exact ⟨_, _, rfl, by decide⟩

theorem IsValue.length_pos {text : List Char} (h : IsValue text) : 0 < text.length := by
  obtain ⟨c, cs, rfl, -⟩ := h.exists_head
  exact Nat.succ_pos _

theorem isBlank_of_inLiteral {c : Char} (h : Numeral.inLiteral c = true) :
    Reader.isBlank c = false := by
  refine Bool.eq_false_iff.mpr fun hblank => ?_
  have hpadding := Numeral.isPadding_of_isBlank hblank
  rw [Numeral.Parts.isPadding_of_inLiteral h] at hpadding
  cases hpadding

theorem IsValue.isBlank_getLast? {text : List Char} (h : IsValue text) :
    ∀ c ∈ text.getLast?, Reader.isBlank c = false := by
  cases h with
  | word hw =>
    simp only [List.mem_cons, List.not_mem_nil, or_false] at hw
    rcases hw with rfl | rfl | rfl <;> exact fun c hc => Option.some.inj hc ▸ rfl
  | number h =>
    obtain ⟨p, hp, -⟩ := h
    exact fun c hc => isBlank_of_inLiteral (hp.literal.characters c (List.mem_of_getLast? hc))
  | @string body =>
    rw [← List.cons_append, List.getLast?_concat]
    exact fun c hc => Option.some.inj hc ▸ rfl
  | @list items inside =>
    rw [listText, ← itemsOnto_append, ← List.cons_append, List.getLast?_concat]
    exact fun c hc => Option.some.inj hc ▸ rfl
  | @object entries inside =>
    rw [objectText, ← entriesOnto_append, ← List.cons_append, List.getLast?_concat]
    exact fun c hc => Option.some.inj hc ▸ rfl

theorem length_le_itemsOnto {items : List Padded} (h : ∀ p ∈ items, IsValue p.value)
    (first : Bool) (rest : List Char) :
    items.length + rest.length ≤ (itemsOnto first items rest).length := by
  induction items generalizing first with
  | nil => exact Nat.le_of_eq (Nat.zero_add _)
  | cons p ps ih =>
    obtain ⟨hp, hps⟩ := List.forall_mem_cons.mp h
    have hpos := hp.length_pos
    have hrest := ih hps false
    simp only [itemsOnto, Padded.onto, List.length_append, List.length_cons]
    omega

theorem length_le_entriesOnto (entries : List Entry) (first : Bool) (rest : List Char) :
    entries.length + rest.length ≤ (entriesOnto first entries rest).length := by
  induction entries generalizing first with
  | nil => exact Nat.le_of_eq (Nat.zero_add _)
  | cons e es ih =>
    have hrest := ih false
    simp only [entriesOnto, Entry.onto, Padded.onto, List.length_append, List.length_cons]
    omega

theorem IsValue.skipBlanks_append {text : List Char} (h : IsValue text) (b : Blanks)
    (rest : List Char) : Reader.skipBlanks (b.1 ++ (text ++ rest)) = text ++ rest := by
  obtain ⟨c, cs, rfl, hc⟩ := h.exists_head
  rw [Json.skipBlanks_append, List.cons_append, skipBlanks_of_opens hc]

end Json

end Switchyard
