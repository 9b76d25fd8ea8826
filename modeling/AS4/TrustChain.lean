import Mathlib
import AS4.Errors
import AS4.FallibleSteps

/-!
Trust in a signer's certificate by a chain of issuers. The search grows one path
from the leaf and takes the first issuer it finds at each step, an anchor before an
intermediate; validity and revocation are looked at once the path is complete.

What is accepted is a chain of the right shape. What is refused need not be
without one: an issuer that comes first in its list may lead nowhere.
-/

namespace TrustChain
open FallibleSteps PythonData AS4Errors

universe u

/-- What is read of a certificate. Extensions that are not there read as nothing. -/
class X509 (Certificate : Type u) where
  basicConstraintsCa : Certificate → Option Bool
  keyCertSign : Certificate → Option Bool
  /-- Whether `certificate.verify_directly_issued_by(issuer)` returns. -/
  directlyIssuedBy : (certificate issuer : Certificate) → Bool
  notValidBefore : Certificate → Int
  notValidAfter : Certificate → Int
  commonNames : Certificate → List String

variable {Certificate : Type u} [X509 Certificate] [DecidableEq Certificate]

section Search

omit [DecidableEq Certificate] in
/-- `can_issue_certificates` -/
def canIssueCertificates (certificate : Certificate) : Bool :=
  match X509.basicConstraintsCa certificate with
  | none => false
  | some false => false
  | some true => (X509.keyCertSign certificate).getD true

omit [DecidableEq Certificate] in
/-- `issuer_of` -/
def issuerOf (certificate : Certificate) (candidates : List Certificate) : Option Certificate :=
  candidates.find? fun candidate => canIssueCertificates candidate && X509.directlyIssuedBy certificate candidate

/-- What `certificate_chain` was given. -/
structure ChainArguments (Certificate : Type u) where
  anchors : List Certificate
  intermediates : List Certificate := []
  revoked : Option (Certificate → Bool) := none
  maximumDepth : Int := 8

/-- The intermediates that are not on the path yet. -/
def fresh (arguments : ChainArguments Certificate) (path : List Certificate) : List Certificate :=
  arguments.intermediates.filter fun candidate => !path.contains candidate

/-- The loop of `path_to_anchor`, with the number of times it can still run. The
path is what comes before its last certificate, and that certificate. -/
def extendPath (arguments : ChainArguments Certificate) :
    Nat → List Certificate → Certificate → Except PyError (List Certificate)
  | 0, _, _ => .error .untrustedSigner
  | turns + 1, before, last =>
      match issuerOf last arguments.anchors with
      | some anchor => .ok (before ++ [last, anchor])
      | none =>
          match issuerOf last (fresh arguments (before ++ [last])) with
          | none => .error .untrustedSigner
          | some intermediate => extendPath arguments turns (before ++ [last]) intermediate

/-- `path_to_anchor`: the path starts with the leaf and grows while it is shorter
than the maximum depth. -/
def pathToAnchor (arguments : ChainArguments Certificate) (leaf : Certificate) : Except PyError (List Certificate) :=
  extendPath arguments (arguments.maximumDepth - 1).toNat [] leaf

omit [DecidableEq Certificate] in
def isCurrent (arguments : ChainArguments Certificate) (now : Int) (certificate : Certificate) : Bool :=
  decide (X509.notValidBefore certificate ≤ now ∧ now ≤ X509.notValidAfter certificate) &&
    !(arguments.revoked.any fun revoked => revoked certificate)

/-- The resolver `certificate_chain` returns, at a time. -/
def resolve (arguments : ChainArguments Certificate) (now : Int) (embedded : Option Certificate) :
    Except PyError Certificate :=
  match embedded with
  | none => .error .untrustedSigner
  | some leaf => do
      let path ← pathToAnchor arguments leaf
      if path.all (isCurrent arguments now) then return leaf else .error .untrustedSigner

end Search

section Chains

omit [DecidableEq Certificate] in
/-- The second certificate may issue certificates, and issued the first. -/
def Issues (certificate issuer : Certificate) : Prop :=
  canIssueCertificates issuer = true ∧ X509.directlyIssuedBy certificate issuer = true

omit [DecidableEq Certificate] in
/-- A chain from a leaf over intermediates to an anchor. -/
structure Chain (arguments : ChainArguments Certificate) (leaf : Certificate) (between : List Certificate)
    (anchor : Certificate) : Prop where
  issued : List.IsChain Issues (leaf :: between ++ [anchor])
  anchored : anchor ∈ arguments.anchors
  among : ∀ certificate ∈ between, certificate ∈ arguments.intermediates
  distinct : between.Nodup
  bounded : ((leaf :: between ++ [anchor]).length : Int) ≤ arguments.maximumDepth

omit [DecidableEq Certificate] in
theorem issuerOf_some {certificate issuer : Certificate} {candidates : List Certificate}
    (found : issuerOf certificate candidates = some issuer) : issuer ∈ candidates ∧ Issues certificate issuer := by
  have issues := List.find?_some found
  exact ⟨List.mem_of_find?_eq_some found, by simpa [Issues] using issues⟩

omit [DecidableEq Certificate] in
theorem issuerOf_none {certificate : Certificate} {candidates : List Certificate} :
    issuerOf certificate candidates = none ↔ ∀ issuer ∈ candidates, ¬ Issues certificate issuer := by
  simp [issuerOf, Issues, List.find?_eq_none]

omit [X509 Certificate] in
theorem mem_fresh {arguments : ChainArguments Certificate} {path : List Certificate} {candidate : Certificate} :
    candidate ∈ fresh arguments path ↔ candidate ∈ arguments.intermediates ∧ candidate ∉ path := by
  simp [fresh]

/-- What the loop returns goes on from its path: issuer by issuer, over intermediates
it had not used, to the first anchor it met. -/
theorem extendPath_ok {arguments : ChainArguments Certificate} {turns : Nat} {before path : List Certificate}
    {last : Certificate} (found : extendPath arguments turns before last = .ok path) :
    ∃ between anchor, path = before ++ last :: between ++ [anchor] ∧
      List.IsChain Issues (last :: between ++ [anchor]) ∧ anchor ∈ arguments.anchors ∧
        (∀ certificate ∈ between, certificate ∈ arguments.intermediates ∧ certificate ∉ before ++ [last]) ∧
          between.Nodup ∧ anchor ∉ between ∧ between.length < turns := by
  induction turns generalizing before last with
  | zero => simp [extendPath] at found
  | succ turns ih =>
      simp only [extendPath] at found
      split at found
      · rename_i anchor issued
        obtain ⟨anchored, issues⟩ := issuerOf_some issued
        obtain rfl := Except.ok.inj found
        exact ⟨[], anchor, by simp, by simpa using issues, anchored, by simp, by simp, by simp, by simp⟩
      · rename_i unanchored
        split at found
        · simp at found
        · rename_i intermediate issued
          obtain ⟨member, issues⟩ := issuerOf_some issued
          obtain ⟨among, unused⟩ := mem_fresh.mp member
          obtain ⟨between, anchor, rfl, linked, anchored, others, distinct, once, short⟩ := ih found
          refine ⟨intermediate :: between, anchor, by simp, ?_, anchored, ?_, ?_, ?_, by simpa using short⟩
          · exact .cons_cons issues linked
          · intro certificate inside
            rcases List.mem_cons.mp inside with rfl | later
            · exact ⟨among, unused⟩
            · obtain ⟨known, absent⟩ := others certificate later
              exact ⟨known, fun again => absent (List.mem_append_left _ again)⟩
          · exact List.nodup_cons.mpr ⟨fun again => (others intermediate again).2 (by simp), distinct⟩
          · -- An anchor that issued the last certificate would have been taken at once.
            intro inside
            rcases List.mem_cons.mp inside with rfl | later
            · exact issuerOf_none.mp unanchored anchor anchored issues
            · exact once later

theorem pathToAnchor_ok {arguments : ChainArguments Certificate} {leaf : Certificate} {path : List Certificate}
    (found : pathToAnchor arguments leaf = .ok path) :
    ∃ between anchor, path = leaf :: between ++ [anchor] ∧ Chain arguments leaf between anchor ∧
      leaf ∉ between ∧ anchor ∉ between := by
  obtain ⟨between, anchor, rfl, linked, anchored, among, distinct, once, short⟩ := extendPath_ok found
  refine ⟨between, anchor, rfl, ⟨linked, anchored, fun certificate inside => (among certificate inside).1, distinct, ?_⟩,
    fun inside => (among leaf inside).2 (by simp), once⟩
  simp only [List.length_append, List.length_cons, List.length_nil]
  omega

theorem extendPath_error {arguments : ChainArguments Certificate} {turns : Nat} {before : List Certificate}
    {last : Certificate} {raised : PyError} (failed : extendPath arguments turns before last = .error raised) :
    raised = .untrustedSigner := by
  induction turns generalizing before last with
  | zero => exact (Except.error.inj failed).symm
  | succ turns ih =>
      simp only [extendPath] at failed
      split at failed
      · simp at failed
      · split at failed
        · exact (Except.error.inj failed).symm
        · exact ih failed

theorem resolve_ok {arguments : ChainArguments Certificate} {now : Int} {embedded : Option Certificate}
    {signer : Certificate} : resolve arguments now embedded = .ok signer ↔
      embedded = some signer ∧ ∃ path, pathToAnchor arguments signer = .ok path ∧
        ∀ certificate ∈ path, isCurrent arguments now certificate = true := by
  cases embedded with
  | none => simp [resolve]
  | some leaf =>
      simp only [resolve, bind_ok, Option.some.injEq]
      constructor
      · rintro ⟨path, found, accepted⟩
        split at accepted
        · rename_i current
          obtain rfl := pure_ok.mp accepted
          exact ⟨rfl, path, found, List.all_eq_true.mp current⟩
        · simp at accepted
      · rintro ⟨rfl, path, found, current⟩
        exact ⟨path, found, by rw [if_pos (List.all_eq_true.mpr current)]; rfl⟩

/-- The search accepts only the leaf of a chain to an anchor, all of it in force, and
refuses everything else in one way. -/
theorem accepted_certificate_heads_a_chain (arguments : ChainArguments Certificate) (now : Int)
    (embedded : Option Certificate) :
    (∃ leaf between anchor, embedded = some leaf ∧ resolve arguments now embedded = .ok leaf ∧
        Chain arguments leaf between anchor ∧ 2 ≤ (leaf :: between ++ [anchor]).length ∧
        (∀ certificate ∈ between, (leaf :: between ++ [anchor]).count certificate = 1) ∧
        ∀ certificate ∈ leaf :: between ++ [anchor], isCurrent arguments now certificate = true) ∨
      resolve arguments now embedded = .error .untrustedSigner := by
  cases result : resolve arguments now embedded with
  | ok signer =>
      obtain ⟨rfl, path, found, current⟩ := resolve_ok.mp result
      obtain ⟨between, anchor, rfl, chain, notLeaf, notAnchor⟩ := pathToAnchor_ok found
      refine .inl ⟨signer, between, anchor, rfl, rfl, chain, by simp, ?_, current⟩
      intro certificate inside
      have other : signer ≠ certificate := fun same => notLeaf (same ▸ inside)
      have other' : anchor ≠ certificate := fun same => notAnchor (same ▸ inside)
      simp [other, other', List.count_eq_one_of_mem chain.distinct inside]
  | error raised =>
      right
      congr 1
      cases embedded with
      | none => exact (Except.error.inj result).symm
      | some leaf =>
          rcases bind_error.mp result with failed | ⟨path, -, refused⟩
          · exact extendPath_error failed
          · split at refused
            · simp at refused
            · exact (Except.error.inj refused).symm

end Chains

section Completeness
variable {arguments : ChainArguments Certificate} {now : Int} {leaf : Certificate}

omit [DecidableEq Certificate] in
/-- A chain that is in force as a whole. -/
def Trusted (arguments : ChainArguments Certificate) (now : Int) (leaf : Certificate) (between : List Certificate)
    (anchor : Certificate) : Prop :=
  Chain arguments leaf between anchor ∧ leaf ∉ between ∧
    ∀ certificate ∈ leaf :: between ++ [anchor], isCurrent arguments now certificate = true

omit [DecidableEq Certificate] in
/-- The path is the beginning of such a chain. -/
def Promising (arguments : ChainArguments Certificate) (now : Int) (leaf : Certificate) (path : List Certificate) : Prop :=
  ∃ between anchor, Trusted arguments now leaf between anchor ∧ path <+: leaf :: between

/-- The paths that come from taking the first issuer listed, as long as no anchor
issued the last certificate. -/
inductive FirstListed (arguments : ChainArguments Certificate) (leaf : Certificate) : List Certificate → Certificate → Prop
  | start : FirstListed arguments leaf [] leaf
  | onward {before : List Certificate} {last next : Certificate} (reached : FirstListed arguments leaf before last)
      (unanchored : issuerOf last arguments.anchors = none)
      (issued : issuerOf last (fresh arguments (before ++ [last])) = some next) :
      FirstListed arguments leaf (before ++ [last]) next

/-- Wherever the first issuers listed lead while there still is a chain to complete,
the next one listed completes it with a certificate in force, or is on such a chain. -/
def FirstIssuerServes (arguments : ChainArguments Certificate) (now : Int) (leaf : Certificate) : Prop :=
  ∀ before last, FirstListed arguments leaf before last → Promising arguments now leaf (before ++ [last]) →
    (∀ anchor, issuerOf last arguments.anchors = some anchor → isCurrent arguments now anchor = true) ∧
      (issuerOf last arguments.anchors = none → ∀ next, issuerOf last (fresh arguments (before ++ [last])) = some next →
        Promising arguments now leaf (before ++ [last, next]))

omit [DecidableEq Certificate] in
/-- A chain that comes back to the leaf has a shorter one inside. -/
theorem trusted_of_chain {between : List Certificate} {anchor : Certificate}
    (chain : Chain arguments leaf between anchor)
    (current : ∀ certificate ∈ leaf :: between ++ [anchor], isCurrent arguments now certificate = true) :
    ∃ between, Trusted arguments now leaf between anchor := by
  by_cases again : leaf ∈ between
  · obtain ⟨front, back, rfl, -⟩ := List.append_of_mem again
    have later : leaf ∉ back := by
      have distinct := chain.distinct
      simp only [List.nodup_append, List.nodup_cons] at distinct
      exact distinct.2.1.1
    refine ⟨back, ⟨?_, chain.anchored, ?_, ?_, ?_⟩, later, ?_⟩
    · have linked := chain.issued
      have split : leaf :: (front ++ leaf :: back) ++ [anchor] = (leaf :: front) ++ (leaf :: back ++ [anchor]) := by simp
      rw [split] at linked
      exact linked.right_of_append
    · exact fun certificate inside => chain.among certificate (by simp [inside])
    · exact (List.nodup_cons.mp (List.nodup_append.mp chain.distinct).2.1).2
    · have bounded := chain.bounded
      simp only [List.length_append, List.length_cons, List.length_nil] at bounded ⊢
      omega
    · intro certificate inside
      apply current
      simp only [List.mem_append, List.mem_cons] at inside ⊢
      tauto
  · exact ⟨between, chain, again, current⟩

/-- The search goes on from each path the first issuers lead to. -/
theorem pathToAnchor_firstListed {before : List Certificate} {last : Certificate}
    (reached : FirstListed arguments leaf before last) (short : (before.length : Int) + 1 ≤ arguments.maximumDepth) :
    pathToAnchor arguments leaf =
      extendPath arguments ((arguments.maximumDepth - 1).toNat - before.length) before last := by
  induction reached with
  | start => rfl
  | @onward before last next reached unanchored issued ih =>
      simp only [List.length_append, List.length_cons, List.length_nil] at short ⊢
      rw [ih (by omega)]
      have turns : (arguments.maximumDepth - 1).toNat - before.length =
          ((arguments.maximumDepth - 1).toNat - (before.length + 1)) + 1 := by omega
      rw [turns, extendPath, unanchored]
      simp only [issued]

/-- While the first issuers listed serve, the loop completes the path. -/
theorem extendPath_serves (serves : FirstIssuerServes arguments now leaf) {turns : Nat} {before : List Certificate}
    {last : Certificate} (reached : FirstListed arguments leaf before last)
    (promising : Promising arguments now leaf (before ++ [last]))
    (room : (before.length : Int) + 1 + turns = arguments.maximumDepth) :
    ∃ path, extendPath arguments turns before last = .ok path ∧
      ∀ certificate ∈ path, isCurrent arguments now certificate = true := by
  induction turns generalizing before last with
  | zero =>
      obtain ⟨between, anchor, ⟨chain, -, -⟩, initial⟩ := promising
      have length := initial.length_le
      have bounded := chain.bounded
      simp only [List.length_append, List.length_cons, List.length_nil] at length bounded
      omega
  | succ turns ih =>
      obtain ⟨inForce, goesOn⟩ := serves before last reached promising
      obtain ⟨between, anchor, ⟨chain, notLeaf, current⟩, rest, whole⟩ := promising
      have currentBefore : ∀ certificate ∈ before ++ [last], isCurrent arguments now certificate = true := by
        intro certificate inside
        apply current
        rw [← whole]
        exact List.mem_append_left _ (List.mem_append_left _ inside)
      simp only [extendPath]
      cases anchored : issuerOf last arguments.anchors with
      | some found =>
          refine ⟨_, rfl, ?_⟩
          intro certificate inside
          have split : certificate ∈ before ++ [last] ∨ certificate = found := by
            simpa [or_assoc] using inside
          rcases split with earlier | rfl
          · exact currentBefore certificate earlier
          · exact inForce certificate anchored
      | none =>
          have linked := chain.issued
          rw [← whole, List.append_assoc, List.append_assoc, List.singleton_append] at linked
          have tail := linked.right_of_append
          cases rest with
          | nil =>
              have issues : Issues last anchor := by simpa using tail
              exact absurd issues (issuerOf_none.mp anchored anchor chain.anchored)
          | cons next rest =>
              have issues : Issues last next := by
                simp only [List.cons_append, List.isChain_cons_cons] at tail
                exact tail.1
              have distinct : (leaf :: between).Nodup := List.nodup_cons.mpr ⟨notLeaf, chain.distinct⟩
              rw [← whole] at distinct
              have unused : next ∉ before ++ [last] := fun again =>
                (List.nodup_append.mp distinct).2.2 next again next (by simp) rfl
              have inBetween : next ∈ between := by
                have member : next ∈ leaf :: between := by rw [← whole]; simp
                rcases List.mem_cons.mp member with rfl | inside
                · -- The leaf is where every path starts.
                  exfalso
                  apply unused
                  cases before with
                  | nil =>
                      have same : last = next := (List.cons.inj whole).1
                      simp [same]
                  | cons first others =>
                      have same : first = next := (List.cons.inj whole).1
                      simp [same]
                · exact inside
              have candidate : next ∈ fresh arguments (before ++ [last]) :=
                mem_fresh.mpr ⟨chain.among next inBetween, unused⟩
              cases issued : issuerOf last (fresh arguments (before ++ [last])) with
              | none => exact absurd issues (issuerOf_none.mp issued next candidate)
              | some found =>
                  simp only
                  apply ih (.onward reached anchored issued)
                  · simpa using goesOn anchored found issued
                  · simp only [List.length_append, List.length_cons, List.length_nil]
                    omega

/-- The search accepts every leaf that heads a chain in force just where the issuer
listed first never is a wrong turn. -/
theorem chain_accepted_iff_first_issuer_serves (arguments : ChainArguments Certificate) (now : Int) (leaf : Certificate) :
    ((∃ between anchor, Chain arguments leaf between anchor ∧
        ∀ certificate ∈ leaf :: between ++ [anchor], isCurrent arguments now certificate = true) →
      resolve arguments now (some leaf) = .ok leaf) ↔ FirstIssuerServes arguments now leaf := by
  constructor
  · intro complete before last reached promising
    obtain ⟨between, anchor, ⟨chain, notLeaf, current⟩, initial⟩ := promising
    have accepted := complete ⟨between, anchor, chain, current⟩
    obtain ⟨-, path, found, pathCurrent⟩ := resolve_ok.mp accepted
    have length := initial.length_le
    have bounded := chain.bounded
    simp only [List.length_append, List.length_cons, List.length_nil] at length bounded
    obtain ⟨between', anchor', whole, chain', notLeaf', -⟩ := pathToAnchor_ok found
    have trusted' : Trusted arguments now leaf between' anchor' := ⟨chain', notLeaf', whole ▸ pathCurrent⟩
    have turns : (arguments.maximumDepth - 1).toNat - before.length =
        ((arguments.maximumDepth - 1).toNat - before.length - 1) + 1 := by omega
    rw [pathToAnchor_firstListed reached (by omega), turns, extendPath] at found
    constructor
    · intro first anchored
      simp only [anchored] at found
      exact pathCurrent first (by rw [← Except.ok.inj found]; simp)
    · intro unanchored next issued
      simp only [unanchored, issued] at found
      obtain ⟨more, last', onward, -⟩ := extendPath_ok found
      refine ⟨between', anchor', trusted', ?_⟩
      rw [onward] at whole
      have dropped := congrArg List.dropLast whole
      simp only [List.dropLast_concat] at dropped
      rw [← dropped]
      exact ⟨more, by simp⟩
  · rintro serves ⟨between, anchor, chain, current⟩
    obtain ⟨between', trusted⟩ := trusted_of_chain chain current
    have bounded := trusted.1.bounded
    simp only [List.length_append, List.length_cons, List.length_nil] at bounded
    have room : (([] : List Certificate).length : Int) + 1 + ((arguments.maximumDepth - 1).toNat : Nat) =
        arguments.maximumDepth := by
      simp only [List.length_nil]
      omega
    obtain ⟨path, found, all⟩ := extendPath_serves serves .start ⟨between', anchor, trusted, by simp⟩ room
    exact resolve_ok.mpr ⟨rfl, path, found, all⟩

/-- A renewed authority beside the expired certificate of the same name and key. -/
inductive RenewedAuthority where
  | leaf
  | expiredRoot
  | renewedRoot
  deriving DecidableEq, Repr

instance : X509 RenewedAuthority where
  basicConstraintsCa certificate := some (certificate != .leaf)
  keyCertSign certificate := if certificate = .leaf then none else some true
  directlyIssuedBy _ issuer := issuer != .leaf
  notValidBefore _ := 0
  notValidAfter certificate := if certificate = .expiredRoot then 10 else 100
  commonNames certificate := if certificate = .leaf then ["9932:1111111111"] else ["test root"]

/-- With the expired root listed first the renewed one is not tried; listed the other
way round the leaf is accepted. -/
theorem renewed_root_is_not_tried :
    ¬ ((∃ between anchor, Chain ⟨[.expiredRoot, .renewedRoot], [], none, 8⟩ RenewedAuthority.leaf between anchor ∧
          ∀ certificate ∈ RenewedAuthority.leaf :: between ++ [anchor],
            isCurrent ⟨[.expiredRoot, .renewedRoot], [], none, 8⟩ 50 certificate = true) →
        resolve ⟨[.expiredRoot, .renewedRoot], [], none, 8⟩ 50 (some RenewedAuthority.leaf) = .ok .leaf) ∧
      resolve ⟨[.renewedRoot, .expiredRoot], [], none, 8⟩ 50 (some RenewedAuthority.leaf) = .ok .leaf := by
  refine ⟨fun complete => ?_, by decide⟩
  have chain : Chain ⟨[.expiredRoot, .renewedRoot], [], none, 8⟩ RenewedAuthority.leaf [] .renewedRoot :=
    ⟨by simp [Issues]; decide, by decide, by simp, by simp, by decide⟩
  exact absurd (complete ⟨[], .renewedRoot, chain, by decide⟩) (by decide)

end Completeness

end TrustChain
