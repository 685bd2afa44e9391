import Mathlib.Data.Set.Basic

/-!
# Tags seen through the log of computed payloads

An unforgeable tag is used in one way only: a tag that verifies was computed by
the key holder, and computed for exactly the payload it is presented with.
This file states that as a property of a tag function, the set of payloads the
holder computed tags for, and the payload and tag pairs presented for
verification.  Nothing is asked of payloads nobody computed or presented, so
the property is satisfiable by functions into a finite tag space.
-/

namespace LogosRln.TagLog

variable {Payload Tag : Type*}

/-- No presented pair is a forgery and no two computed payloads share a tag. -/
structure Unforged (tag : Payload → Tag) (computed : Set Payload)
    (presented : Payload → Tag → Prop) : Prop where
  noForgery : ∀ payload claimed, presented payload claimed → tag payload = claimed →
    payload ∈ computed
  noCollision : ∀ left ∈ computed, ∀ right ∈ computed, tag left = tag right → left = right

variable {tag : Payload → Tag} {computed : Set Payload} {presented : Payload → Tag → Prop}

/-- A presented payload verifying against the tag of a computed one is that
payload. -/
theorem Unforged.eq_of_verifies (hunforged : Unforged tag computed presented)
    {payload genuine : Payload} {claimed : Tag} (hpresented : presented payload claimed)
    (hverifies : tag payload = claimed) (hgenuine : genuine ∈ computed)
    (htag : tag genuine = claimed) : payload = genuine :=
  hunforged.noCollision payload (hunforged.noForgery payload claimed hpresented hverifies)
    genuine hgenuine (hverifies.trans htag.symm)

end LogosRln.TagLog
