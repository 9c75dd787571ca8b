import Switchyard.Decoding.Record
import Switchyard.Proofs.Json.Reading

/-! What decoders give, if they give something, in terms of how deep arrays and
objects may nest: a list or a record leaves one level less to what is in it,
however it is spelled. -/

namespace Switchyard

open Json.Reader

namespace Decoder

def Gives {α : Type} (d : Decoder α) (p : Nat → α → Prop) : Prop :=
  ∀ depth cs, Yields (p depth) (d.text depth cs)

variable {α : Type} {d : Decoder α} {p : Nat → α → Prop}

theorem Gives.imp {q : Nat → α → Prop} (h : d.Gives p) (himp : ∀ depth a, p depth a → q depth a) :
    d.Gives q := fun depth cs a rest heq => himp depth a (h depth cs a rest heq)

theorem gives_true (d : Decoder α) : d.Gives fun _ _ => True := fun _ _ _ _ _ => trivial

theorem gives_json : json.Gives Json.Fits := fun _ _ => (readsFitting _).value _ _

theorem Gives.optional (h : d.Gives p) : (optional d).Gives fun depth o => ∀ a ∈ o, p depth a := by
  intro depth cs
  unfold Decoder.optional
  dsimp only
  split
  · exact yields_constant nofun _
  · exact (h _ _).mapValue fun a ha b hb => Option.some.inj hb ▸ ha

theorem yields_refuse {q : α → Prop} {expected : String} {cs : List Char} :
    Yields q (refuse expected cs) := by
  intro a rest heq
  unfold refuse at heq
  split at heq <;> cases heq

theorem Gives.itemsWith (h : d.Gives p) {depth : Nat} (fuel : Nat) {first : Bool} {acc : List α}
    {cs : List Char} (hacc : ∀ a ∈ acc, p depth a) :
    Yields (fun as => ∀ a ∈ as, p depth a) (itemsWith d depth fuel first acc cs) := by
  induction fuel generalizing first acc cs with
  | zero => exact yields_fail
  | succ fuel ih =>
    unfold Decoder.itemsWith
    split
    · exact yields_error
    · exact yields_constant (fun a ha => hacc a (List.mem_reverse.mp ha)) _
    · split
      · exact yields_error
      · next heq => exact ih (List.forall_mem_cons.mpr ⟨h _ _ _ _ heq, hacc⟩)

theorem Gives.list (h : d.Gives p) : (list d).Gives fun depth as => ∀ a ∈ as, p (depth - 1) a := by
  intro depth cs
  unfold Decoder.list
  dsimp only
  split
  · exact yields_fail
  · split
    · exact yields_failAt
    · exact h.itemsWith _ nofun
  · exact yields_refuse

end Decoder

def Field.Preserves {σ : Type} (field : Field σ) (inv : Nat → σ → Prop) : Prop :=
  field.update.Gives fun depth update => ∀ draft, inv depth draft → inv depth (update draft)

theorem Field.preserves_of {σ β : Type} {inv : Nat → σ → Prop} {key : String} {d : Decoder β}
    {set : β → σ → σ} {p : Nat → β → Prop} (hd : d.Gives p)
    (hset : ∀ depth b draft, p depth b → inv depth draft → inv depth (set b draft)) :
    (Field.of key d set).Preserves inv :=
  fun depth cs => (hd depth cs).mapValue fun b hb draft => hset depth b draft hb

theorem Field.preserves_of_untouched {σ β : Type} {inv : Nat → σ → Prop} {key : String}
    {d : Decoder β} {set : β → σ → σ}
    (hset : ∀ depth b draft, inv depth draft → inv depth (set b draft)) :
    (Field.of key d set).Preserves inv :=
  Field.preserves_of d.gives_true fun depth b draft _ => hset depth b draft

namespace Shape

variable {σ α : Type} {shape : Shape σ α} {inv : Nat → σ → Prop}

theorem yields_membersWith (h : ∀ field ∈ shape.fields, field.Preserves inv) {depth : Nat}
    (fuel : Nat) {first : Bool} {seen : List String} {draft : σ} {cs : List Char}
    (hdraft : inv depth draft) :
    Yields (inv depth) (shape.membersWith depth fuel first seen draft cs) := by
  induction fuel generalizing first seen draft cs with
  | zero => exact yields_fail
  | succ fuel ih =>
    unfold membersWith
    split
    · exact yields_error
    · intro last rest heq
      cases heq
      exact hdraft
    · split
      · exact yields_error
      · split
        · -- the value of an unknown key is skipped, and the draft stays
          split
          · exact yields_error
          · split
            · exact yields_error
            · exact ih hdraft
        · next field hfield =>
          split_ifs
          · exact yields_error
          · split
            · exact yields_error
            · split
              · exact yields_error
              · next heq =>
                have hmem : field ∈ shape.fields := List.mem_of_find?_eq_some hfield
                exact ih (h field hmem _ _ _ _ heq draft hdraft)

theorem yields_itemsWith {fields : List (Field σ)} (h : ∀ field ∈ fields, field.Preserves inv)
    {depth : Nat} {first : Bool} {draft : σ} {cs : List Char} (hdraft : inv depth draft) :
    Yields (inv depth) (itemsWith depth fields first draft cs) := by
  induction fields generalizing first draft cs with
  | nil =>
    intro last rest heq
    cases heq
    exact hdraft
  | cons field fields ih =>
    obtain ⟨hfield, hfields⟩ := List.forall_mem_cons.mp h
    unfold itemsWith
    split
    · exact yields_error
    · intro last rest heq
      cases heq
      exact hdraft
    · split
      · exact yields_error
      · next heq => exact ih hfields (hfield _ _ _ _ heq draft hdraft)

theorem yields_finishText {depth : Nat} {draft : σ} (hdraft : inv depth draft)
    (missing : String → Mismatch) (closed : Result (List Char)) :
    Yields (fun a => ∃ last, inv depth last ∧ shape.finish last = .ok a)
      (shape.finishText missing draft closed) := by
  intro a rest heq
  unfold finishText at heq
  split at heq
  · cases heq
  · split at heq
    · cases heq
    · next hfinish =>
      cases heq
      exact ⟨draft, hdraft, hfinish⟩

theorem gives_decoder (hblank : ∀ depth, inv depth shape.blank)
    (h : ∀ field ∈ shape.fields, field.Preserves inv) :
    shape.decoder.Gives fun depth a => ∃ draft, inv (depth - 1) draft ∧ shape.finish draft = .ok a := by
  intro depth cs
  change Yields _ (shape.text depth cs)
  unfold text
  split
  · exact yields_fail
  · -- an array of the fields in order
    split
    · exact yields_failAt
    · split
      · exact yields_error
      · next heq =>
        exact yields_finishText (yields_itemsWith h (hblank _) _ _ heq) _ _
  · -- an object with the fields as members
    split
    · exact yields_failAt
    · split
      · exact yields_error
      · next heq =>
        exact yields_finishText (yields_membersWith h _ (hblank _) _ _ heq) _ _
  · exact Decoder.yields_refuse

end Shape

end Switchyard
