import AS4.TrustChain

/-!
The path length constraints of issuers. An issuer is taken when it may issue
certificates and issued the one before it; how many authorities it allows under
itself is not read, so the search keeps a constraint just where it never had the
occasion to break one.
-/

namespace PathLengths
open TrustChain AS4Errors

universe u

/-- `BasicConstraints.path_length`, which is set on authorities only. -/
class PathConstrained (Certificate : Type u) extends X509 Certificate where
  pathLength : Certificate → Option Nat

variable {Certificate : Type u} [PathConstrained Certificate]

section Constraints

def isAuthority (certificate : Certificate) : Bool := X509.basicConstraintsCa certificate == some true

/-- Every authority on a path that sets a path length has no more authorities between
itself and the leaf. -/
def HonoursPathLengths (path : List Certificate) : Prop :=
  ∀ leaf between authority above allowed, path = leaf :: between ++ authority :: above →
    isAuthority authority = true → PathConstrained.pathLength authority = some allowed →
      between.countP isAuthority ≤ allowed

theorem issuer_isAuthority {certificate : Certificate} (issuer : canIssueCertificates certificate = true) :
    isAuthority certificate = true := by
  simp only [canIssueCertificates] at issuer
  split at issuer <;> simp_all [isAuthority]

/-- Everything behind the leaf of a chain is an authority. -/
theorem chain_authorities {first : Certificate} {rest : List Certificate}
    (linked : List.IsChain Issues (first :: rest)) : ∀ certificate ∈ rest, isAuthority certificate = true := by
  induction rest generalizing first with
  | nil => simp
  | cons next rest ih =>
      obtain ⟨⟨issuer, -⟩, later⟩ := List.isChain_cons_cons.mp linked
      intro certificate inside
      rcases List.mem_cons.mp inside with rfl | behind
      · exact issuer_isAuthority issuer
      · exact ih later certificate behind

theorem chain_honours_iff {first : Certificate} {rest : List Certificate}
    (linked : List.IsChain Issues (first :: rest)) :
    HonoursPathLengths (first :: rest) ↔
      ∀ between authority above allowed, rest = between ++ authority :: above →
        PathConstrained.pathLength authority = some allowed → between.length ≤ allowed := by
  have authorities := chain_authorities linked
  constructor
  · intro honours between authority above allowed split constrained
    have counted := honours first between authority above allowed (by simp [split])
      (authorities authority (by simp [split])) constrained
    rwa [List.countP_eq_length.mpr (fun certificate inside =>
      authorities certificate (by simp [split, inside]))] at counted
  · intro short leaf between authority above allowed split _ constrained
    obtain ⟨-, behind⟩ := List.cons.inj split
    exact le_trans List.countP_le_length (short between authority above allowed behind constrained)

end Constraints

section Search
variable [DecidableEq Certificate] {arguments : ChainArguments Certificate} {leaf : Certificate}

/-- The issuer the loop takes for the last certificate of a path: an anchor, else an
intermediate that is not on the path. -/
def nextIssuer (arguments : ChainArguments Certificate) (before : List Certificate) (last : Certificate) :
    Option Certificate :=
  (issuerOf last arguments.anchors).or (issuerOf last (fresh arguments (before ++ [last])))

/-- No issuer the search meets has a path length below the number of intermediates
already on the path. -/
def IssuersAllow (arguments : ChainArguments Certificate) (leaf : Certificate) : Prop :=
  ∀ before last issuer allowed, FirstListed arguments leaf before last →
    nextIssuer arguments before last = some issuer →
      PathConstrained.pathLength issuer = some allowed → before.length ≤ allowed

/-- One turn of the loop: what it returns goes on with the issuer taken. -/
theorem extendPath_next {turns : Nat} {before path : List Certificate} {last : Certificate}
    (found : extendPath arguments turns before last = .ok path) :
    ∃ issuer above, nextIssuer arguments before last = some issuer ∧ path = before ++ last :: issuer :: above := by
  cases turns with
  | zero => simp [extendPath] at found
  | succ turns =>
      simp only [extendPath] at found
      split at found
      · rename_i anchor anchored
        exact ⟨anchor, [], by simp [nextIssuer, anchored], by rw [← Except.ok.inj found]⟩
      · rename_i unanchored
        split at found
        · simp at found
        · rename_i intermediate issued
          obtain ⟨between, anchor, rfl, -⟩ := extendPath_ok found
          exact ⟨intermediate, between ++ [anchor], by simp [nextIssuer, unanchored, issued], by simp⟩

/-- Each cut of the path returned, behind the leaf, is a turn of the loop. -/
theorem extendPath_cut {turns : Nat} {before between above path : List Certificate} {last issuer : Certificate}
    (reached : FirstListed arguments leaf before last) (found : extendPath arguments turns before last = .ok path)
    (cut : path = before ++ last :: between ++ issuer :: above) :
    ∃ front final, FirstListed arguments leaf front final ∧ front ++ [final] = before ++ last :: between ∧
      nextIssuer arguments front final = some issuer := by
  induction turns generalizing before between last with
  | zero => simp [extendPath] at found
  | succ turns ih =>
      obtain ⟨taken, later, next, whole⟩ := extendPath_next found
      cases between with
      | nil =>
          obtain ⟨rfl, -⟩ : taken = issuer ∧ later = above := by
            simpa using whole.symm.trans cut
          exact ⟨before, last, reached, rfl, next⟩
      | cons second between =>
          obtain ⟨rfl, split⟩ : taken = second ∧ later = between ++ issuer :: above := by
            simpa using whole.symm.trans cut
          simp only [extendPath] at found
          split at found
          · -- The path ends with the anchor, so nothing lies between.
            have short := congrArg List.length ((Except.ok.inj found).trans cut)
            simp only [List.length_append, List.length_cons, List.length_nil] at short
            omega
          · rename_i unanchored
            split at found
            · simp at found
            · rename_i intermediate issued
              obtain rfl : intermediate = taken := by
                simpa [nextIssuer, unanchored, issued] using next
              obtain ⟨front, final, visited, same, takes⟩ :=
                ih (.onward reached unanchored issued) found (by simpa using cut)
              exact ⟨front, final, visited, by simpa using same, takes⟩

theorem firstListed_length {before : List Certificate} {last : Certificate}
    (reached : FirstListed arguments leaf before last) :
    ∃ behind, before ++ [last] = leaf :: behind ∧ behind.length = before.length := by
  induction reached with
  | start => exact ⟨[], rfl, rfl⟩
  | @onward before last next reached unanchored issued ih =>
      obtain ⟨behind, starts, length⟩ := ih
      exact ⟨behind ++ [next], by simp [starts], by simp [length]⟩

/-- While no anchor has been met, the loop that returned a path has come by. -/
theorem firstListed_on_path {path : List Certificate} (found : pathToAnchor arguments leaf = .ok path)
    {before : List Certificate} {last : Certificate} (reached : FirstListed arguments leaf before last) :
    ∃ turns, extendPath arguments turns before last = .ok path := by
  induction reached with
  | start => exact ⟨_, found⟩
  | @onward before last next reached unanchored issued ih =>
      obtain ⟨turns, goesOn⟩ := ih
      cases turns with
      | zero => simp [extendPath] at goesOn
      | succ turns =>
          simp only [extendPath, unanchored, issued] at goesOn
          exact ⟨turns, goesOn⟩

/-- A root, an authority it certified for leaves only, and an authority which that one
certified all the same. -/
inductive Hierarchy where
  | leaf
  | subordinate
  | leavesOnly
  | root
  deriving DecidableEq, Repr

instance : PathConstrained Hierarchy where
  basicConstraintsCa certificate := if certificate = .leaf then none else some true
  keyCertSign certificate := if certificate = .leaf then none else some true
  directlyIssuedBy certificate issuer :=
    match certificate, issuer with
    | .leaf, .subordinate | .subordinate, .leavesOnly | .leavesOnly, .root | .root, .root => true
    | _, _ => false
  notValidBefore _ := 0
  notValidAfter _ := 100
  commonNames certificate := if certificate = .leaf then ["9932:1111111111"] else ["test root"]
  pathLength certificate := if certificate = .leavesOnly then some 0 else none

def hierarchyArguments : ChainArguments Hierarchy := ⟨[.root], [.leavesOnly, .subordinate], none, 8⟩

end Search

end PathLengths
