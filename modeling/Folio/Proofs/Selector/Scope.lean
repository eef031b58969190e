import Folio.Selector.Matching

/-!
# Folio.Proofs.Selector.Scope

Selectors without `:scope`.  The element that a selection starts from matters to
a selector only where it names it, so that any other selector means the same
elements wherever the selection starts (`anyHolds_congr`).
-/

namespace Folio.Selector

open Folio.Markup

mutual

/-- The condition names the element that the selection starts from. -/
def Simple.namesScope : Simple → Bool
  | .scope => true
  | .anyOf list => anyNamesScope list
  | .noneOf list => anyNamesScope list
  | .related list => anyNamesScope list
  | _ => false

/-- One of the conditions names it. -/
def someNamesScope : List Simple → Bool
  | [] => false
  | s :: rest => s.namesScope || someNamesScope rest

/-- A member of the chain names it. -/
def Complex.namesScope : Complex → Bool
  | .compound conditions => someNamesScope conditions
  | .joined left _ conditions => left.namesScope || someNamesScope conditions

/-- One of the selectors names it. -/
def anyNamesScope : List Complex → Bool
  | [] => false
  | c :: rest => c.namesScope || anyNamesScope rest

end

variable (a b : Place)

mutual

theorem Simple.holds_congr : ∀ s : Simple, s.namesScope = false →
    ∀ (anchor : Option Place) (p : Place), s.holds ⟨a, anchor⟩ p = s.holds ⟨b, anchor⟩ p
  | .universal, _, _, _ => rfl
  | .noNamespace, _, _, _ => rfl
  | .type _, _, _, _ => rfl
  | .id _, _, _, _ => rfl
  | .cls _, _, _, _ => rfl
  | .hasAttribute _ _, _, _, _ => rfl
  | .attribute _ _ _ _ _, _, _, _ => rfl
  | .nth _ _ _ _, _, _, _ => rfl
  | .only _, _, _, _ => rfl
  | .root, _, _, _ => rfl
  | .empty, _, _, _ => rfl
  | .scope, h, _, _ => nomatch h
  | .anchor, _, _, _ => rfl
  | .anyOf list, h, anchor, p => by
      rw [Simple.holds, Simple.holds, anyHolds_congr list h anchor p]
  | .noneOf list, h, anchor, p => by
      rw [Simple.holds, Simple.holds, anyHolds_congr list h anchor p]
  | .related list, h, anchor, p => by
      rw [Simple.holds, Simple.holds, anyRelated_congr list h anchor p]

theorem allHold_congr : ∀ conditions : List Simple, someNamesScope conditions = false →
    ∀ (anchor : Option Place) (p : Place),
      allHold conditions ⟨a, anchor⟩ p = allHold conditions ⟨b, anchor⟩ p
  | [], _, _, _ => rfl
  | s :: rest, h, anchor, p => by
      obtain ⟨hs, hrest⟩ := Bool.or_eq_false_iff.mp h
      simp [allHold, s.holds_congr hs anchor p, allHold_congr rest hrest anchor p]

theorem Complex.holds_congr : ∀ c : Complex, c.namesScope = false →
    ∀ (anchor : Option Place) (p : Place), c.holds ⟨a, anchor⟩ p = c.holds ⟨b, anchor⟩ p
  | .compound conditions, h, anchor, p => by
      rw [Complex.holds, Complex.holds, allHold_congr conditions h anchor p]
  | .joined left combinator conditions, h, anchor, p => by
      obtain ⟨hleft, hconditions⟩ := Bool.or_eq_false_iff.mp h
      simp [Complex.holds, allHold_congr conditions hconditions anchor p,
        funext (left.holds_congr hleft anchor)]

/-- **Selectors without `:scope`.**  They mean the same elements wherever a selection
starts. -/
theorem anyHolds_congr : ∀ list : List Complex, anyNamesScope list = false →
    ∀ (anchor : Option Place) (p : Place), anyHolds list ⟨a, anchor⟩ p = anyHolds list ⟨b, anchor⟩ p
  | [], _, _, _ => rfl
  | c :: rest, h, anchor, p => by
      obtain ⟨hc, hrest⟩ := Bool.or_eq_false_iff.mp h
      simp [anyHolds, c.holds_congr hc anchor p, anyHolds_congr rest hrest anchor p]

theorem anyRelated_congr : ∀ list : List Complex, anyNamesScope list = false →
    ∀ (anchor : Option Place) (p : Place),
      anyRelated list ⟨a, anchor⟩ p = anyRelated list ⟨b, anchor⟩ p
  | [], _, _, _ => rfl
  | c :: rest, h, anchor, p => by
      obtain ⟨hc, hrest⟩ := Bool.or_eq_false_iff.mp h
      simp [anyRelated, funext (c.holds_congr hc (some p)), anyRelated_congr rest hrest anchor p]

end

end Folio.Selector
