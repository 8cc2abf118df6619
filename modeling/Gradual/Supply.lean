/-! Supplies of fresh ids: two counters, one for type variables and one for type parameters, that
only ever go up. -/
namespace Gradual

structure Supply where
  nextVar : Int
  nextParam : Int
  deriving DecidableEq

namespace Supply

def startingAt (first : Int) : Supply := ⟨first, first⟩

/-- The supply of an inference that is given none. -/
def initial : Supply := startingAt 1

def drawVar (s : Supply) : Int × Supply := (s.nextVar, { s with nextVar := s.nextVar + 1 })

def drawParam (s : Supply) : Int × Supply := (s.nextParam, { s with nextParam := s.nextParam + 1 })

def drawVarPair (s : Supply) : (Int × Int) × Supply :=
  ((s.nextVar, s.nextVar + 1), { s with nextVar := s.nextVar + 2 })

end Supply

end Gradual
