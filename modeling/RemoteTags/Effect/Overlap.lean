import RemoteTags.Effect.Action

/-! Programs that overlap. A program stops where it has to wait, for the slot of the link or for
a call that the host does not answer yet, and the others go on. -/

namespace RemoteTags.World

variable {H : Type}

/-- The answer to an action, unless it has to wait. `keep?` tells which calls the host has
received but does not answer yet. -/
def answer? (host : Host H) (keep? : Remote.Call → H → Option H) :
    (a : Action) → World H → Option a.Reply × World H
  | .session x, w =>
    if x.waits && w.session.held then (none, w)
    else
      let (r, s) := x.answer w.session
      (some r, { w with session := s })
  | .remote c, w => match keep? c w.host with
    | some h => (none, { w with host := h })
    | none =>
      let (r, w) := w.call host c
      (some r, w)
  | .opening c g, w => match keep? (.dial c) w.host with
    | some h => (none, { w with host := h })
    | none =>
      let (r, w) := w.openWithin host c g
      (some r, w)
  | a, w =>
    let (r, w) := w.answer host a
    (some r, w)

def advance {α : Type} (host : Host H) (keep? : Remote.Call → H → Option H) (p : Act α)
    (w : World H) : Act α × World H :=
  Program.advance (answer? host keep?) p w

def advanceAll {α : Type} (host : Host H) (keep? : Remote.Call → H → Option H) :
    List (Act α) → World H → List (Act α) × World H
  | [], w => ([], w)
  | p :: ps, w =>
    let (p, w) := w.advance host keep? p
    let (ps, w) := w.advanceAll host keep? ps
    (p :: ps, w)

def rounds {α : Type} (host : Host H) (keep? : Remote.Call → H → Option H) :
    Nat → List (Act α) → World H → List (Act α) × World H
  | 0, ps, w => (ps, w)
  | n + 1, ps, w =>
    let (ps, w) := w.advanceAll host keep? ps
    rounds host keep? n ps w

end RemoteTags.World
