import Mathlib.Algebra.Module.LinearMap.Basic
import Mathlib.LinearAlgebra.BilinearMap

/-!
# Boneh--Franklin key encapsulation over a pairing of type 3

The three groups are modules over one ring of scalars, the target group included, whose law is
written additively here: a power there is a scalar multiple.

* `masterPublic`, `identityKey`: what the holder of the master secret publishes and hands out.
* `ephemeral`, `sharedSecret`: what a sender transmits and what it derives the key from.
* `recoveredSecret`, `recoveredSecret_identityKey`: the holder of the identity key finds the
  sender's secret.
-/

namespace AsynCS
namespace BonehFranklin

variable {R A B C : Type*} [CommRing R] [AddCommGroup A] [AddCommGroup B] [AddCommGroup C]
  [Module R A] [Module R B] [Module R C]

/-- The public parameter of a master secret. -/
def masterPublic (g : A) (s : R) : A := s • g

/-- The key of the identity with the hash `q`. -/
def identityKey (q : B) (s : R) : B := s • q

/-- What the sender transmits. -/
def ephemeral (g : A) (r : R) : A := r • g

/-- The sender's secret, from the public parameter and the hash of the identity. -/
def sharedSecret (e : A →ₗ[R] B →ₗ[R] C) (mpk : A) (q : B) (r : R) : C := r • e mpk q

/-- The receiver's secret, from what was transmitted and the identity key. -/
def recoveredSecret (e : A →ₗ[R] B →ₗ[R] C) (u : A) (sk : B) : C := e u sk

/-- **Both ends find one secret.** -/
theorem recoveredSecret_identityKey (e : A →ₗ[R] B →ₗ[R] C) (g : A) (q : B) (s r : R) :
    recoveredSecret e (ephemeral g r) (identityKey q s) =
      sharedSecret e (masterPublic g s) q r := by
  calc e (r • g) (s • q) = r • e g (s • q) := e.map_smul₂ r g (s • q)
    _ = r • s • e g q := by rw [map_smul]
    _ = r • e (s • g) q := by rw [e.map_smul₂]

end BonehFranklin
end AsynCS
