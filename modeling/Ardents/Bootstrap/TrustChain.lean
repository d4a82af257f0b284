import Ardents.Bootstrap.ManifestTrust

/-!
# Chains of trust bundles

A client's bundle is replaced by one update after the other. One with a lower version is refused.
One with the same version is let through when it has the same bundle id, and nothing compares what
the two say: a bundle can be replaced by another, and that by the first one again.
-/

namespace Ardents.Bootstrap

open Go

def Accepts (E : Ed25519) (marshal : Bundle → Option Bytes) (current next : Bundle) : Prop :=
  ∃ update t, verifyAndApplyUpdate E marshal current update t = .ok next

def SameKeys (b b' : Bundle) : Prop :=
  b.rootKeys = b'.rootKeys ∧ b.manifestKeys = b'.manifestKeys

structure Unforked (bundles : List Bundle) : Prop where
  ordered : bundles.Pairwise fun b b' => b.version ≤ b'.version
  unique : bundles.Pairwise fun b b' => b.version = b'.version → SameKeys b b'

/-- A bundle is replaced by one of its own version only if that has its keys. -/
def KeepsKeys (current next : Bundle) : Prop :=
  next.version = current.version → SameKeys current next

variable {E : Ed25519} {marshal : Bundle → Option Bytes} {bundles : List Bundle}
  {b b' b'' current next : Bundle}

theorem SameKeys.trans (h : SameKeys b b') (h' : SameKeys b' b'') : SameKeys b b'' :=
  ⟨h.1.trans h'.1, h.2.trans h'.2⟩

theorem Accepts.version_le (h : Accepts E marshal current next) :
    current.version ≤ next.version := by
  obtain ⟨update, t, hupdate⟩ := h
  obtain ⟨-, hmonotonic, rfl⟩ := verifyAndApplyUpdate_ok hupdate
  obtain ⟨⟨⟩, hle, -⟩ := bind_ok.mp hmonotonic
  exact require_ok.mp hle

def Advances (b b' : Bundle) : Prop := b.version ≤ b'.version ∧ KeepsKeys b b'

instance : IsTrans Bundle Advances where
  trans := by
    rintro b b' b'' ⟨hle, hkeys⟩ ⟨hle', hkeys'⟩
    refine ⟨le_trans hle hle', fun hsame => ?_⟩
    -- the version in between is squeezed
    have hmid : b'.version = b.version := le_antisymm (hsame ▸ hle') hle
    exact (hkeys hmid).trans (hkeys' (hsame.trans hmid.symm))

instance : IsTrans Bundle fun b b' => b.version ≤ b'.version where
  trans := fun _ _ _ h h' => le_trans h h'

/-- A chain of accepted updates is neither replayed nor forked exactly when no update changes the
keys under the version it finds. -/
theorem unforked_iff (E : Ed25519) (marshal : Bundle → Option Bytes) (bundles : List Bundle)
    (h : bundles.IsChain (Accepts E marshal)) : Unforked bundles ↔ bundles.IsChain KeepsKeys := by
  have hordered : bundles.IsChain fun b b' => b.version ≤ b'.version :=
    h.imp fun _ _ hstep => hstep.version_le
  constructor
  · intro hunforked
    exact hunforked.unique.isChain.imp fun _ _ hkeys hsame => hkeys hsame.symm
  · intro hkeeps
    have hadvances : bundles.IsChain Advances := by
      clear h
      induction bundles with
      | nil => exact List.IsChain.nil
      | cons b rest ih =>
        cases rest with
        | nil => exact List.IsChain.singleton b
        | cons b' rest =>
          obtain ⟨hle, hordered⟩ := List.isChain_cons_cons.mp hordered
          obtain ⟨hkeys, hkeeps⟩ := List.isChain_cons_cons.mp hkeeps
          exact List.isChain_cons_cons.mpr ⟨⟨hle, hkeys⟩, ih hordered hkeeps⟩
    refine ⟨hordered.pairwise, ?_⟩
    exact hadvances.pairwise.imp fun hadv hsame => hadv.2 hsame.symm

/-! ## A replay -/

/-- The bundle of the current keys, and another one under the same version and id. -/
def firstKeys : Bundle := bundleWith 1 "tb-1" [("manifest", zeroKey)]

def secondKeys : Bundle := bundleWith 1 "tb-1" [("manifest", otherKey)]

/-- The first bundle is replaced by the second one, and then brought back. -/
theorem first_keys_replayed :
    [firstKeys, secondKeys, firstKeys].IsChain (Accepts openSignatures (some <| bundleText ·)) ∧
      firstKeys.manifestKeys ≠ secondKeys.manifestKeys ∧
      ¬ Unforked [firstKeys, secondKeys, firstKeys] := by
  have hdiffer : firstKeys.manifestKeys ≠ secondKeys.manifestKeys := by decide
  refine ⟨?_, hdiffer, fun h => ?_⟩
  · refine List.isChain_cons_cons.mpr ⟨⟨signedUpdate secondKeys, 10, by decide +kernel⟩, ?_⟩
    exact List.isChain_cons_cons.mpr ⟨⟨signedUpdate firstKeys, 10, by decide +kernel⟩,
      List.IsChain.singleton _⟩
  · have hsame := List.rel_of_pairwise_cons h.unique (List.mem_cons_self (a := secondKeys)) rfl
    exact hdiffer hsame.2

/-- The rotation of the repository's test is no fork. -/
theorem overlap_unforked : Unforked [bundleWith 1 "tb-1" [("manifest-old", zeroKey)],
      bundleWith 2 "tb-2" [("manifest-old", zeroKey), ("manifest-new", otherKey)]] := by
  refine (unforked_iff openSignatures (some <| bundleText ·) _ ?_).mpr ?_
  · exact List.isChain_cons_cons.mpr ⟨⟨signedUpdate (bundleWith 2 "tb-2"
      [("manifest-old", zeroKey), ("manifest-new", otherKey)]), 10, by decide +kernel⟩,
      List.IsChain.singleton _⟩
  · refine List.isChain_cons_cons.mpr ⟨fun hsame => ?_, List.IsChain.singleton _⟩
    exact absurd hsame (by decide)

end Ardents.Bootstrap
