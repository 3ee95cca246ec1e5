import GrammarRules.Proofs.Token.Script

/-!
# Patterns as the author wrote them

A `SlotScript` is a slot of a pattern by the scripts of its tokens.  With an alternative chosen for
every slot, `PieceScript.settings` lays the scripts out as the elements of the variant, each with
the numbering that its matches are to have: a number counts slots, and it comes to mean the last
token of its slot, but in a phrase it counts tokens from the beginning of the phrase.  In either
case the new number is kept in 32 bits.  The corrected elements show these settings
(`shows_settings`).
-/

namespace GrammarRules

/-- A slot of a pattern as it was written. -/
inductive SlotScript where
  /-- A token, or the members of a group of constraints on one token. -/
  | single (group : List TokenScript)
  | phrase (alternatives : List (List TokenScript))

/-- A slot of a pattern with the choice made. -/
inductive PieceScript where
  | single (group : List TokenScript)
  | phrase (tokens : List TokenScript)

namespace PieceScript

/-- How many tokens of a sentence the piece takes. -/
def length : PieceScript → Nat
  | single _ => 1
  | phrase tokens => tokens.length

/-- How many tokens of a sentence the pieces take. -/
def extent (pieces : List PieceScript) : Nat := (pieces.map length).sum

/-- The scripts for each token of a piece, and what the numbers in them mean. -/
def setting (before : List PieceScript) : PieceScript → List (List TokenScript × (Nat → Nat))
  | single group => [(group, fun number => word32 (extent (before.take number)))]
  | phrase tokens =>
    tokens.map fun token => ([token], fun number => word32 (number + extent before))

/-- The scripts for each token of a sequence of pieces, and what the numbers in them mean. -/
def settings (before : List PieceScript) :
    List PieceScript → List (List TokenScript × (Nat → Nat))
  | [] => []
  | piece :: pieces => piece.setting before ++ settings (before ++ [piece]) pieces

end PieceScript

namespace SlotScript

/-- What may be chosen for the slot. -/
def pieces : SlotScript → List PieceScript
  | single group => [.single group]
  | phrase alternatives => alternatives.map .phrase

/-- How many choices there are for the slot. -/
def width (slot : SlotScript) : Nat := slot.pieces.length

/-- The pieces with the given numbers, slot by slot. -/
def pick : List SlotScript → List Nat → List PieceScript
  | slot :: slots, index :: indices => slot.pieces[index]?.toList ++ pick slots indices
  | _, _ => []

end SlotScript

/-! ## Scripts and elements -/

/-- The elements are those of a sequence of tokens with these scripts. -/
abbrev RecordsAll (scripts : List TokenScript) (elements : List Element) : Prop :=
  List.Forall₂ TokenScript.Records scripts elements

/-- The piece is that of the script. -/
inductive PieceScript.Records : PieceScript → Piece → Prop
  | single {group : List TokenScript} {element : Element}
      (h : RecordsAll group (element :: element.andGroup)) :
      Records (.single group) (.single element)
  | phrase {tokens : List TokenScript} {name : String} {elements : List Element}
      (h : RecordsAll tokens elements) : Records (.phrase tokens) (.phrase name elements)

/-- The slot is that of the script. -/
inductive SlotScript.Records : SlotScript → Slot → Prop
  | single {group : List TokenScript} {element : Element}
      (h : RecordsAll group (element :: element.andGroup)) :
      Records (.single group) (.single element)
  | phrase {scripts : List (List TokenScript)} {name : String} {alternatives : Alternatives}
      (h : List.Forall₂ RecordsAll scripts alternatives) :
      Records (.phrase scripts) (.phrase name alternatives)

/-- The element and the members of its group show the scripts under the numbering. -/
def ShowsSetting (setting : List TokenScript × (Nat → Nat)) (element : Element) : Prop :=
  List.Forall₂ (TokenScript.Shows setting.2) setting.1 (element :: element.andGroup)

theorem SlotScript.Records.pieces {script : SlotScript} {slot : Slot} (h : script.Records slot) :
    List.Forall₂ PieceScript.Records script.pieces slot.pieces := by
  cases h with
  | single h => exact .cons (.single h) .nil
  | phrase h =>
    rw [SlotScript.pieces, Slot.pieces, List.forall₂_map_left_iff, List.forall₂_map_right_iff]
    exact h.imp fun _ _ => .phrase

/-- The element that the members of a group make together. -/
theorem SlotScript.Records.of_group {group : List TokenScript} {first element : Element}
    {others : List Element} (h : RecordsAll group (first :: others))
    (htext : element.text = first.text) (hnumber : element.tokenRef? = first.tokenRef?)
    (hothers : element.andGroup = others) :
    SlotScript.Records (.single group) (.single element) := by
  obtain ⟨script, scripts, hfirst, hscripts, rfl⟩ := List.forall₂_cons_right_iff.1 h
  exact .single (.cons (hfirst.congr htext hnumber) (hothers ▸ hscripts))

/-- The end of a unification block does not concern the script. -/
theorem SlotScript.Records.close {script : SlotScript} {slot : Slot} (h : script.Records slot) :
    script.Records slot.close := by
  cases h with
  | single h => exact of_group h rfl rfl rfl
  | phrase h => exact .phrase h

theorem map_width_eq {scripts : List SlotScript} {slots : List Slot}
    (h : List.Forall₂ SlotScript.Records scripts slots) :
    scripts.map SlotScript.width = slots.map Slot.width := by
  induction h with
  | nil => rfl
  | cons hslot hslots ih => rw [List.map_cons, List.map_cons, ih, SlotScript.width,
    hslot.pieces.length_eq, Slot.width]

theorem forall₂_getElem? {α β : Type} {R : α → β → Prop} {xs : List α} {ys : List β}
    (h : List.Forall₂ R xs ys) (index : Nat) :
    List.Forall₂ R xs[index]?.toList ys[index]?.toList := by
  induction h generalizing index with
  | nil => exact .nil
  | cons hxy hrest ih =>
    cases index with
    | zero => exact .cons hxy .nil
    | succ index => exact ih index

/-- Two sequences in step end in step. -/
theorem exists_of_forall₂_concat {α β : Type} {R : α → β → Prop} {xs : List α} {ys : List β}
    {y : β} (h : List.Forall₂ R xs (ys ++ [y])) :
    ∃ init x, xs = init ++ [x] ∧ List.Forall₂ R init ys ∧ R x y := by
  have hlast := List.forall₂_drop_append xs ys [y] h
  obtain ⟨x, rest, hxy, hrest, hdrop⟩ := List.forall₂_cons_right_iff.1 hlast
  cases hrest
  exact ⟨xs.take ys.length, x, by rw [← hdrop, List.take_append_drop],
    List.forall₂_take_append xs ys [y] h, hxy⟩

/-- What stands on the right is related to something on the left. -/
theorem exists_of_forall₂_mem {α β : Type} {R : α → β → Prop} {xs : List α} {ys : List β}
    (h : List.Forall₂ R xs ys) {y : β} (hy : y ∈ ys) : ∃ x ∈ xs, R x y := by
  induction h with
  | nil => cases hy
  | @cons first second xs ys hfirst hrest ih =>
    rcases List.mem_cons.1 hy with rfl | hy
    · exact ⟨first, List.mem_cons_self, hfirst⟩
    · obtain ⟨x, hx, hxy⟩ := ih hy
      exact ⟨x, List.mem_cons_of_mem _ hx, hxy⟩

theorem SlotScript.records_pick {scripts : List SlotScript} {slots : List Slot}
    (h : List.Forall₂ SlotScript.Records scripts slots) (indices : List Nat) :
    List.Forall₂ PieceScript.Records (pick scripts indices) (Slot.pick slots indices) := by
  induction h generalizing indices with
  | nil => exact .nil
  | cons hslot hslots ih =>
    cases indices with
    | nil => exact .nil
    | cons index indices =>
      exact List.rel_append (forall₂_getElem? hslot.pieces index) (ih indices)

theorem PieceScript.Records.length_eq {script : PieceScript} {piece : Piece}
    (h : script.Records piece) : script.length = piece.elements.length := by
  cases h with
  | single => rfl
  | phrase h => exact h.length_eq

theorem PieceScript.extent_eq {scripts : List PieceScript} {pieces : List Piece}
    (h : List.Forall₂ PieceScript.Records scripts pieces) :
    extent scripts = Piece.extent pieces := by
  induction h with
  | nil => rfl
  | cons hpiece hpieces ih =>
    rw [Piece.extent_cons, ← ih, ← hpiece.length_eq]
    rfl

/-! ## The correction -/

theorem RecordsAll.groupFits {group : List TokenScript} {element : Element}
    (h : RecordsAll group (element :: element.andGroup)) : element.GroupFits := by
  intro e he number hnumber
  obtain ⟨script, -, hscript⟩ := exists_of_forall₂_mem h he
  exact hscript.bounded number (List.mem_of_getLast? (hscript.tokenRef.symm.trans hnumber))

/-- The elements that have been written have numbers of 32 bits. -/
theorem PieceScript.Records.groupFits {script : PieceScript} {piece : Piece} {index : Nat}
    (h : script.Records piece) (sound : piece.Sound index) : ∀ e ∈ piece.elements, e.GroupFits := by
  cases h with
  | single h =>
    intro e he
    obtain rfl := List.mem_singleton.1 he
    exact RecordsAll.groupFits h
  | phrase h =>
    intro e he
    obtain ⟨token, -, htoken⟩ := exists_of_forall₂_mem h he
    obtain ⟨offset, hoffset⟩ := List.mem_iff_getElem?.1 he
    have hgroup : RecordsAll [token] (e :: e.andGroup) := by
      rw [(sound.2.2 offset e hoffset).andGroup]
      exact .cons htoken .nil
    exact hgroup.groupFits

/-- What holds of two sequences in step, where the second is changed by its indices. -/
theorem forall₂_mapIdx {α β γ : Type} {R : α → β → Prop} {S : α → γ → Prop} {f : Nat → β → γ}
    {xs : List α} {ys : List β} (h : List.Forall₂ R xs ys)
    (hf : ∀ (index : Nat) (x : α) (y : β), ys[index]? = some y → R x y → S x (f index y)) :
    List.Forall₂ S xs (ys.mapIdx f) := by
  induction h generalizing f with
  | nil => exact .nil
  | cons hxy hrest ih =>
    rw [List.mapIdx_cons]
    exact .cons (hf 0 _ _ rfl hxy) (ih fun index x y hy => hf (index + 1) x y hy)

/-- The correction of the members of a group. -/
theorem shows_map_correctReference {scripts : List TokenScript} {elements : List Element}
    {physical : Nat → Nat} {spans : List PhraseSpan} {index : Nat} (h : RecordsAll scripts elements)
    (hphysical : ∀ e ∈ elements, ∀ number, e.tokenRef? = some number →
      correctedNumber spans index number = physical number) :
    List.Forall₂ (TokenScript.Shows physical) scripts
      (elements.map (·.correctReference spans index)) := by
  induction h with
  | nil => exact .nil
  | cons hscript hrest ih =>
    rw [List.forall_mem_cons] at hphysical
    exact .cons (hscript.shows hphysical.1) (ih hphysical.2)

/-- The correction of an element and of the members of its group. -/
theorem shows_correct {group : List TokenScript} {element : Element} {physical : Nat → Nat}
    {spans : List PhraseSpan} {index : Nat} (h : RecordsAll group (element :: element.andGroup))
    (hphysical : ∀ e ∈ element :: element.andGroup, ∀ number, e.tokenRef? = some number →
      correctedNumber spans index number = physical number) :
    ShowsSetting (group, physical) (element.correct spans index) := by
  obtain ⟨script, scripts, hscript, hscripts, rfl⟩ :=
    List.forall₂_cons_right_iff.1 (shows_map_correctReference h hphysical)
  exact .cons (hscript.congr rfl rfl) hscripts

/-- The corrected elements of a piece show its setting. -/
theorem shows_setting {before after : List Piece} {piece : Piece} {before' : List PieceScript}
    {script : PieceScript} (sound : SoundPieces (before ++ piece :: after))
    (hbefore : List.Forall₂ PieceScript.Records before' before) (hpiece : script.Records piece) :
    List.Forall₂ ShowsSetting (script.setting before')
      (piece.elements.mapIdx fun index e =>
        e.correct (Piece.spans 0 (before ++ piece :: after)) (Piece.extent before + index)) := by
  have hpieceSound := sound.sound
  cases hpiece with
  | @single group element h =>
    refine .cons (shows_correct h fun e he number hnumber => ?_) .nil
    obtain ⟨hpos, hle⟩ := hpieceSound.2 e he number hnumber
    have htake := PieceScript.extent_eq (List.forall₂_take number hbefore)
    exact (sound.correctedNumber_single hpos hle).trans (congrArg word32 htake.symm)
  | @phrase tokens name elements h =>
    rw [PieceScript.setting, List.forall₂_map_left_iff]
    refine forall₂_mapIdx h fun index token e he htoken => ?_
    have hplain := hpieceSound.2.2 index e he
    have hgroup : RecordsAll [token] (e :: e.andGroup) := by
      rw [hplain.andGroup]
      exact .cons htoken .nil
    have hoffset : index < elements.length := (List.getElem?_eq_some_iff.1 he).1
    refine shows_correct hgroup fun _ _ number _ => ?_
    rw [SoundPieces.correctedNumber_phrase hoffset, PieceScript.extent_eq hbefore]

/-- The corrected elements of the pieces behind `before` show the settings of the scripts. -/
theorem shows_settings_after {before rest : List Piece} {before' rest' : List PieceScript}
    (sound : SoundPieces (before ++ rest))
    (hbefore : List.Forall₂ PieceScript.Records before' before)
    (hrest : List.Forall₂ PieceScript.Records rest' rest) :
    List.Forall₂ ShowsSetting (PieceScript.settings before' rest')
      ((rest.flatMap Piece.elements).mapIdx fun index e =>
        e.correct (Piece.spans 0 (before ++ rest)) (Piece.extent before + index)) := by
  induction hrest generalizing before before' with
  | nil => exact .nil
  | @cons script piece rest' rest hpiece hrest ih =>
    have happend : before ++ piece :: rest = (before ++ [piece]) ++ rest := by
      rw [List.append_assoc, List.singleton_append]
    have hlater := ih (happend ▸ sound) (List.rel_append hbefore (.cons hpiece .nil))
    rw [← happend] at hlater
    rw [PieceScript.settings, List.flatMap_cons, List.mapIdx_append]
    refine List.rel_append (shows_setting sound hbefore hpiece) ?_
    have hextent : Piece.extent (before ++ [piece]) =
        Piece.extent before + piece.elements.length := by simp
    simp only [hextent, Nat.add_assoc] at hlater
    simpa only [Nat.add_comm _ piece.elements.length] using hlater

/-- The corrected elements of a variant show the settings of the chosen scripts. -/
theorem shows_settings {pieces : List Piece} {scripts : List PieceScript}
    (sound : SoundPieces pieces) (h : List.Forall₂ PieceScript.Records scripts pieces) :
    List.Forall₂ ShowsSetting (PieceScript.settings [] scripts)
      (correctReferences (Piece.layout pieces).elements (Piece.layout pieces).spans) := by
  have hsound : SoundPieces ([] ++ pieces) := sound
  have hshows := shows_settings_after hsound .nil h
  simp only [Piece.extent_nil, Nat.zero_add] at hshows
  have hfits : ∀ e ∈ (Piece.layout pieces).elements, e.GroupFits := by
    intro e he
    obtain ⟨piece, hpiece, he⟩ := List.mem_flatMap.1 he
    obtain ⟨index, hindex⟩ := List.mem_iff_getElem?.1 hpiece
    obtain ⟨script, -, hscript⟩ := exists_of_forall₂_mem h hpiece
    exact hscript.groupFits (sound index piece hindex) e he
  rw [correctReferences_eq_mapIdx hfits]
  exact hshows

end GrammarRules
