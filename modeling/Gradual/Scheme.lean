import Gradual.Fault
import Gradual.Supply

/-! Type schemes. Generalisation turns the variables that are left in a type into parameters, one
fresh parameter for each variable in the order of first occurrence; alpha-equivalence compares types
up to a renaming of parameters and variables. -/
namespace Gradual

variable {ε : Type}

namespace Ty

/-- Variable ids from left to right, each listed once. -/
def distinctVars (t : Ty ε) : List Int := t.vars.eraseDups

/-- Replaces the variables one after the other by the parameters from `next` on, and gives the
parameter that comes after them. -/
def generalizeFrom (t : Ty ε) (next : Int) : Ty ε × Int :=
  t.distinctVars.foldl (fun (t, a) x => (t.subst x (.param a), a + 1)) (t, next)

end Ty

/-- Generalisation that draws its parameters from a supply. On a type with a host leaf the first
replacement is undefined, after its parameter has been drawn. -/
def Supply.generalize (s : Supply) (t : Ty ε) : Except (Fault ε) (Ty ε) × Supply :=
  match t.distinctVars, t.host? with
  | _ :: _, some leaf => (.error (.undefined leaf), s.drawParam.2)
  | _, _ =>
    let (scheme, next) := t.generalizeFrom s.nextParam
    (.ok scheme, { s with nextParam := next })

/-- A finite injective renaming of ids. -/
abbrev Renaming := List (Int × Int)

namespace Renaming

/-- Extends the renaming by `a ↦ b`, unless `a` already goes elsewhere or `b` comes from elsewhere. -/
def match? (known : Renaming) (a b : Int) : Option Renaming :=
  match known.find? (·.1 = a) with
  | some (_, image) => if image = b then some known else none
  | none => if known.any (·.2 = b) then none else some ((a, b) :: known)

end Renaming

namespace Ty

variable [DecidableEq ε]

/-- Walks both types together and extends the renamings of parameters and of variables. -/
def alphaMatch? : Ty ε → Ty ε → Renaming × Renaming → Option (Renaming × Renaming)
  | .param a, .param b, (params, vars) => (params.match? a b).map (·, vars)
  | .var x, .var y, (params, vars) => (vars.match? x y).map (params, ·)
  | .arrow a b, .arrow c d, renamings => (alphaMatch? a c renamings).bind (alphaMatch? b d)
  | t, u, renamings => if t = u then some renamings else none

def alphaEquivalent (t u : Ty ε) : Bool := (alphaMatch? t u ([], [])).isSome

end Ty

end Gradual
