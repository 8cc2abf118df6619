import Gradual.Proofs.Renaming

/-! Alpha-equivalence is equality up to renaming. Matching two types collects pairs of ids, and the pairs
say all there is to say about the parts that have been compared: functions on ids take one part to the
other exactly if they agree with every pair. Since no id is paired twice on either side, there are
permutations among these functions. -/
namespace Gradual

variable {ε : Type}

namespace Renaming

variable {known known' : Renaming} {a b : Int}

/-- No id has two images, and none is the image of two. -/
structure OneToOne (known : Renaming) : Prop where
  sources : (known.map Prod.fst).Nodup
  images : (known.map Prod.snd).Nodup

theorem OneToOne.nil : OneToOne [] := ⟨List.nodup_nil, List.nodup_nil⟩

/-- Every finite renaming is part of a permutation. -/
theorem OneToOne.exists_perm (oneToOne : known.OneToOne) : ∃ ρ : Equiv.Perm Int, known.Within ρ := by
  obtain ⟨ρ, extending⟩ := Equiv.Perm.exists_extending_pair
    (fun entry : {entry // entry ∈ known} => entry.1.1) (fun entry => entry.1.2)
    (fun x y same => Subtype.ext (List.inj_on_of_nodup_map oneToOne.sources x.2 y.2 same))
    (fun x y same => Subtype.ext (List.inj_on_of_nodup_map oneToOne.images x.2 y.2 same))
  exact ⟨ρ, fun entry member => (extending ⟨entry, member⟩).symm⟩

/-- Ids that match have been paired before, or neither of them has been paired at all. -/
theorem match?_cases (found : known.match? a b = some known') :
    ((a, b) ∈ known ∧ known' = known) ∨
      (a ∉ known.map Prod.fst ∧ b ∉ known.map Prod.snd ∧ known' = (a, b) :: known) := by
  unfold match? at found
  split at found
  · rename_i image paired
    have member := List.mem_of_find?_eq_some paired
    obtain rfl : _ = a := by simpa using List.find?_some paired
    split at found
    · rename_i same
      subst same
      exact .inl ⟨member, (Option.some.inj found).symm⟩
    · cases found
  · rename_i unpaired
    split at found
    · cases found
    · rename_i unused
      refine .inr ⟨?_, ?_, (Option.some.inj found).symm⟩
      · intro source
        obtain ⟨entry, member, rfl⟩ := List.mem_map.mp source
        exact List.find?_eq_none.mp unpaired entry member (by simp)
      · intro image
        obtain ⟨entry, member, rfl⟩ := List.mem_map.mp image
        exact unused (List.any_eq_true.mpr ⟨entry, member, by simp⟩)

theorem OneToOne.match? (oneToOne : known.OneToOne) (found : known.match? a b = some known') :
    known'.OneToOne := by
  obtain ⟨-, rfl⟩ | ⟨newSource, newImage, rfl⟩ := match?_cases found
  · exact oneToOne
  · exact ⟨oneToOne.sources.cons newSource, oneToOne.images.cons newImage⟩

theorem within_match? (found : known.match? a b = some known') (f : Int → Int) :
    known'.Within f ↔ known.Within f ∧ f a = b := by
  obtain ⟨paired, rfl⟩ | ⟨-, -, rfl⟩ := match?_cases found
  · exact ⟨fun within => ⟨within, (within _ paired).symm⟩, And.left⟩
  · rw [Within, List.forall_mem_cons, and_comm, eq_comm]
    rfl

end Renaming

namespace Ty

theorem rename_id (t : Ty ε) : t.rename id id = t := by
  induction t with
  | arrow dom cod left right => simp [left, right]
  | _ => rfl

theorem rename_rename (f g f' g' : Int → Int) (t : Ty ε) :
    (t.rename f g).rename f' g' = t.rename (f' ∘ f) (g' ∘ g) := by
  induction t with
  | arrow dom cod left right => simp [left, right]
  | _ => rfl

/-- The pairs collected from two types, parameters first: they stay one to one, and the functions that
agree with them are those that agreed before and take the first type to the second. -/
structure Collects (t u : Ty ε) (before after : Renaming × Renaming) : Prop where
  params : before.1.OneToOne → after.1.OneToOne
  vars : before.2.OneToOne → after.2.OneToOne
  within : ∀ f g, after.1.Within f ∧ after.2.Within g ↔
    (before.1.Within f ∧ before.2.Within g) ∧ t.rename f g = u

section Collects

variable {t u : Ty ε} {before after : Renaming × Renaming}

theorem Collects.arrow {a b c d : Ty ε} {between : Renaming × Renaming}
    (dom : Collects a c before between) (cod : Collects b d between after) :
    Collects (.arrow a b) (.arrow c d) before after where
  params := cod.params ∘ dom.params
  vars := cod.vars ∘ dom.vars
  within f g := by
    rw [cod.within, dom.within, and_assoc, rename, arrow.injEq]

variable [DecidableEq ε]

/-- Types without ids and without parts match if they are equal. -/
theorem Collects.leaf (fixed : ∀ f g, t.rename f g = t)
    (compared : (if t = u then some before else none) = some after) :
    Collects t u before after := by
  split at compared
  · rename_i same
    subst same
    cases compared
    exact ⟨id, id, fun f g => by simp [fixed f g]⟩
  · cases compared

theorem collects_of_alphaMatch? (matched : alphaMatch? t u before = some after) :
    Collects t u before after := by
  obtain ⟨params, vars⟩ := before
  induction t generalizing u params vars after with
  | param a =>
    cases u with
    | param b =>
      obtain ⟨params', found, rfl⟩ := Option.map_eq_some_iff.mp matched
      refine ⟨fun oneToOne => oneToOne.match? found, id, fun f g => ?_⟩
      rw [Renaming.within_match? found, rename, param.injEq, and_right_comm]
    | _ => simp [alphaMatch?] at matched
  | var x =>
    cases u with
    | var y =>
      obtain ⟨vars', found, rfl⟩ := Option.map_eq_some_iff.mp matched
      refine ⟨id, fun oneToOne => oneToOne.match? found, fun f g => ?_⟩
      rw [Renaming.within_match? found, rename, var.injEq, and_assoc]
    | _ => simp [alphaMatch?] at matched
  | arrow dom cod left right =>
    cases u with
    | arrow dom' cod' =>
      rw [alphaMatch?, Option.bind_eq_some_iff] at matched
      obtain ⟨⟨params', vars'⟩, matchedDom, matchedCod⟩ := matched
      exact (left _ _ matchedDom).arrow (right _ _ matchedCod)
    | _ => simp [alphaMatch?] at matched
  | base | dyn | host => exact .leaf (fun _ _ => rfl) (by cases u <;> exact matched)

/-- Types are alpha-equivalent if permutations of the ids take one to the other. -/
theorem alphaEquivalent_iff_rename {t u : Ty ε} :
    t.alphaEquivalent u = true ↔ ∃ κ ρ : Equiv.Perm Int, t.rename κ ρ = u := by
  constructor
  · intro matched
    obtain ⟨after, matched⟩ := Option.isSome_iff_exists.mp matched
    have collects := collects_of_alphaMatch? matched
    obtain ⟨κ, withinParams⟩ := (collects.params .nil).exists_perm
    obtain ⟨ρ, withinVars⟩ := (collects.vars .nil).exists_perm
    exact ⟨κ, ρ, ((collects.within κ ρ).mp ⟨withinParams, withinVars⟩).2⟩
  · rintro ⟨κ, ρ, rfl⟩
    exact t.alphaEquivalent_rename κ.injective ρ.injective

end Collects

/-- Alpha-equivalence is equality up to one renaming of all parameters and one of all variables, and
so it is an equivalence. -/
theorem alphaEquivalent_up_to_renaming [DecidableEq ε] :
    (∀ t u : Ty ε, t.alphaEquivalent u = true ↔ ∃ κ ρ : Equiv.Perm Int, t.rename κ ρ = u) ∧
      Equivalence fun t u : Ty ε => t.alphaEquivalent u = true := by
  refine ⟨fun t u => alphaEquivalent_iff_rename, ?_, ?_, ?_⟩
  · intro t
    exact alphaEquivalent_iff_rename.mpr ⟨.refl Int, .refl Int, t.rename_id⟩
  · intro t u alike
    obtain ⟨κ, ρ, rfl⟩ := alphaEquivalent_iff_rename.mp alike
    refine alphaEquivalent_iff_rename.mpr ⟨κ.symm, ρ.symm, ?_⟩
    rw [rename_rename, Equiv.symm_comp_self, Equiv.symm_comp_self, rename_id]
  · intro t u v first second
    obtain ⟨κ, ρ, rfl⟩ := alphaEquivalent_iff_rename.mp first
    obtain ⟨κ', ρ', rfl⟩ := alphaEquivalent_iff_rename.mp second
    refine alphaEquivalent_iff_rename.mpr ⟨κ.trans κ', ρ.trans ρ', ?_⟩
    exact (t.rename_rename κ ρ κ' ρ').symm

end Ty

end Gradual
