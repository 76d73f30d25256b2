import EvmProbe.Proofs.Image.Names
import EvmProbe.Proofs.Trace.Addresses

/-!
A patcher that is used again and again.

A patcher is made once, in scopes from `base` on.  Then accounts are recorded and code is patched,
in any order, and scopes are handed out for other things meanwhile (`Session`).

* `Session.Keeps.after`, `Session.keeps_foldl`: of all that was asked for, the patcher keeps the
  recorded accounts only.
* `answersOneShot_of_new`: **each image is the one that a new patcher makes**, whose options hold
  the accounts recorded so far, wherever scopes start and whatever they are called.
-/

namespace EvmProbe

/-- A scope as a counter of 64 bits hands it out. -/
def Scope.wrapped (scope : Scope) : Scope := ⟨scope.id % 2 ^ 64⟩

/-- A counter of 64 bits tells scopes apart, unless more than it can count have been handed out. -/
theorem Scope.injOn_wrapped {first last : Scope} (h : last.id ≤ first.id + 2 ^ 64) :
    Set.InjOn Scope.wrapped {scope | first.id ≤ scope.id ∧ scope.id < last.id} := by
  rintro ⟨a⟩ ⟨ha, ha'⟩ ⟨b⟩ ⟨hb, hb'⟩ hab
  have hmod : a % 2 ^ 64 = b % 2 ^ 64 := congrArg Scope.id hab
  dsimp only at ha ha' hb hb'
  congr 1
  omega

namespace Patcher

/-- The image of deployed code, if scopes are called by other names. -/
def patchNamed (patcher : Patcher) (name : Scope → Scope) (first : Scope) (code : Bytes) :
    Except PatchError Bytes :=
  if code.isEmpty then .ok []
  else
    let preambleSize := codeSize (patcher.fragments.get .preamble)
    if preambleSize ≠ Environment.preambleSize then .error (.preambleSize preambleSize)
    else match encodeSections ((patcher.sections first code).map (·.map (·.renamed name))) with
      | .ok image => .ok image
      | .error cause => .error (.program cause)

section
variable {patcher patcher' : Patcher} {base base' first first' : Scope} {code : Bytes}

/-- **The names of scopes make no difference.** -/
theorem patchNamed_eq_patchFrom (hp : patcher.Assembled base) (hp' : patcher'.Assembled base')
    (ho : patcher'.options = patcher.options)
    (hfresh : base.id + Fragment.all.length ≤ first.id)
    (hfresh' : base'.id + Fragment.all.length ≤ first'.id) {name : Scope → Scope}
    (hname : Set.InjOn name (ownScopes base first code)) :
    patcher.patchNamed name first code = patcher'.patchFrom first' code := by
  have hpreamble : patcher.fragments.get .preamble =
      (patcher'.fragments.get .preamble).map (·.inScope base) := by
    rw [preamble_eq hp, preamble_eq hp']
    rfl
  have hsize : codeSize (patcher.fragments.get .preamble) =
      codeSize (patcher'.fragments.get .preamble) := by
    rw [hpreamble, codeSize_map (f := (·.inScope base)) fun _ => rfl]
  rewrite [patchNamed, patchFrom, hsize,
    encodeSections_sections_eq hp hp' ho hfresh hfresh' hname]
  rfl

theorem patchNamed_id (patcher : Patcher) (first : Scope) (code : Bytes) :
    patcher.patchNamed id first code = patcher.patchFrom first code := by
  have hid : ∀ inst : Instruction, inst.renamed id = inst := fun inst => by
    rw [Instruction.renamed, Option.map_id, id]
  have hsections : (patcher.sections first code).map (·.map (·.renamed id)) =
      patcher.sections first code := by
    simp only [hid, List.map_id']
  rewrite [patchNamed, patchFrom, hsections]
  rfl

end

/-! ## Sessions -/

/-- What is asked of a patcher, or takes place elsewhere. -/
inductive Request where
  /-- The deployed code of an account is recorded. -/
  | record (address : Address) (code : DeployedCode)
  /-- Code is patched. -/
  | patch (code : Bytes)
  /-- Scopes are handed out for something else. -/
  | elsewhere (count : Nat)

/-- A patcher, and the scope that is handed out next. -/
structure Session where
  patcher : Patcher
  next : Scope

namespace Session

/-- The session behind a request. -/
def after (session : Session) : Request → Session
  | .record address code => ⟨session.patcher.insertAccount address code, session.next⟩
  | .patch code =>
    ⟨session.patcher, session.next.after (scopesTaken (disassemble session.next code))⟩
  | .elsewhere count => ⟨session.patcher, session.next.after count⟩

/-- The answer to a request, if it has one. -/
def answer? (session : Session) : Request → Option (Except PatchError Bytes)
  | .patch code => some (session.patcher.patchFrom session.next code)
  | _ => none

/-- The accounts that are recorded, in order. -/
def recorded (requests : List Request) : List (Address × DeployedCode) :=
  requests.filterMap fun
    | .record address code => some (address, code)
    | _ => none

/-- What a session keeps: the options that its patcher was made with, the accounts recorded since,
and fragments in scopes that are not handed out again. -/
structure Keeps (options : PatchOptions) (base : Scope) (accounts : List (Address × DeployedCode))
    (session : Session) : Prop where
  options : session.patcher.options =
    { options with accounts := options.accounts.insertAll accounts }
  assembled : session.patcher.Assembled base
  fresh : base.id + Fragment.all.length ≤ session.next.id

variable {options : PatchOptions} {base : Scope} {entries : List (Address × DeployedCode)}
  {session : Session}

/-- A request changes no more than the recorded accounts. -/
theorem Keeps.after (h : Keeps options base entries session) (request : Request) :
    Keeps options base (entries ++ recorded [request]) (session.after request) := by
  obtain ⟨ho, ha, hfresh⟩ := h
  cases request with
  | record address code =>
    refine ⟨?_, fun fragment => ha fragment, hfresh⟩
    have hinsert : options.accounts.insertAll (entries ++ recorded [.record address code]) =
        (options.accounts.insertAll entries).insert address code := by
      rw [AddressMap.insertAll, List.foldl_append]
      rfl
    rw [hinsert]
    simp only [Session.after, insertAccount, ho]
  | patch code =>
    rw [show recorded [.patch code] = [] from rfl, List.append_nil]
    exact ⟨ho, ha, Nat.le_trans hfresh (Nat.le_add_right _ _)⟩
  | elsewhere count =>
    rw [show recorded [.elsewhere count] = [] from rfl, List.append_nil]
    exact ⟨ho, ha, Nat.le_trans hfresh (Nat.le_add_right _ _)⟩

/-- **Requests change no more than the recorded accounts.** -/
theorem keeps_foldl (h : Keeps options base entries session) (requests : List Request) :
    Keeps options base (entries ++ recorded requests) (requests.foldl Session.after session) := by
  induction requests generalizing entries session with
  | nil => simpa [recorded] using h
  | cons request requests ih =>
    have hcons : recorded (request :: requests) = recorded [request] ++ recorded requests := by
      rw [recorded, recorded, recorded, ← List.filterMap_append, List.singleton_append]
    rw [List.foldl_cons, hcons, ← List.append_assoc]
    exact ih (h.after request)

/-- A session answers as a new patcher with certain options does. -/
structure AnswersOneShot (options : PatchOptions) (base : Scope) (session : Session)
    (code : Bytes) : Prop where
  answer : session.answer? (.patch code) = some (patchCode options code)
  /-- Scopes may go by any names that tell those of the image apart. -/
  named : ∀ name : Scope → Scope, Set.InjOn name (ownScopes base session.next code) →
    session.patcher.patchNamed name session.next code = patchCode options code
  /-- Scopes may be counted in 64 bits, from any start on. -/
  wrapped : session.next.id + scopesTaken (disassemble session.next code) ≤ base.id + 2 ^ 64 →
    session.patcher.patchNamed Scope.wrapped session.next code = patchCode options code

/-- A session answers as a new patcher does that knows the same accounts. -/
theorem Keeps.answersOneShot (h : Keeps options base entries session)
    (hs : options.accounts.Sorted) {accounts : Accounts} (hsorted : accounts.Sorted)
    (hfind : ∀ address, accounts.find? address =
      (entries.reverse.lookup address).or (options.accounts.find? address)) (code : Bytes) :
    AnswersOneShot { options with accounts } base session code := by
  have haccounts : options.accounts.insertAll entries = accounts :=
    (hs.insertAll entries).ext hsorted fun address => by
      rw [AddressMap.find?_insertAll_last, hfind]
  obtain ⟨fresh, hnew, hoptions, -⟩ := exists_new { options with accounts } ⟨0⟩
  have hcode : patchCode { options with accounts } code = fresh.patchFrom firstScope code := by
    rw [patchCode, hnew]
    rfl
  have hsame : fresh.options = session.patcher.options := by
    rw [hoptions, h.options, haccounts]
  have hnamed : ∀ name : Scope → Scope, Set.InjOn name (ownScopes base session.next code) →
      session.patcher.patchNamed name session.next code =
        patchCode { options with accounts } code := fun name hname => by
    rw [hcode]
    exact patchNamed_eq_patchFrom h.assembled (assembled_of_new hnew).2 hsame h.fresh
      (Nat.le_of_eq (Nat.zero_add _)) hname
  refine ⟨?_, hnamed, fun hcount => hnamed _ ?_⟩
  · rw [answer?, ← patchNamed_id, hnamed id (Set.injOn_id _)]
  · have hwindow : Set.InjOn Scope.wrapped {scope | base.id ≤ scope.id ∧ scope.id <
        (session.next.after (scopesTaken (disassemble session.next code))).id} :=
      Scope.injOn_wrapped hcount
    have hfresh := h.fresh
    refine hwindow.mono ?_
    rintro scope (⟨i, hi, rfl⟩ | ⟨i, hi, rfl⟩)
    · simp only [Scope.after, Set.mem_ofPred_eq]
      omega
    · simp only [Scope.after, Set.mem_ofPred_eq]
      omega

/-- **Each image is the one that a new patcher makes** with the accounts recorded so far, of which
the last one counts for each address, wherever scopes start. -/
theorem answersOneShot_of_new (options : PatchOptions) (hs : options.accounts.Sorted)
    (base : Scope) : ∃ patcher, Patcher.new options base = .ok patcher ∧
      ∀ (requests : List Request) (accounts : Accounts), accounts.Sorted →
      (∀ address, accounts.find? address =
        ((recorded requests).reverse.lookup address).or (options.accounts.find? address)) →
      ∀ code, AnswersOneShot { options with accounts } base
        (requests.foldl Session.after ⟨patcher, base.after Fragment.all.length⟩) code := by
  obtain ⟨patcher, hnew, ho, -⟩ := exists_new options base
  have hstart : Keeps options base [] ⟨patcher, base.after Fragment.all.length⟩ :=
    ⟨ho, (assembled_of_new hnew).2, Nat.le_refl _⟩
  refine ⟨patcher, hnew, fun requests accounts hsorted hfind code => ?_⟩
  have hkeeps := keeps_foldl hstart requests
  rw [List.nil_append] at hkeeps
  exact hkeeps.answersOneShot hs hsorted hfind code

/-- An account is recorded twice, and code is patched in between. -/
def recordedTwice : List Request :=
  [.record 9 ⟨3, 7⟩, .patch [0x00], .elsewhere 2, .record 9 ⟨4, 8⟩]

/-- The scope that is handed out first if a counter is about to wrap around. -/
def lateScope : Scope := ⟨2 ^ 64 - 5⟩

/-- A patcher is made in scopes that wrap around.  Its images know what was recorded last. -/
theorem answersOneShot_recordedTwice :
    (AddressMap.empty : Accounts).Sorted ∧ ∃ patcher, Patcher.new {} lateScope = .ok patcher ∧
      AnswersOneShot { accounts := ⟨[(9, ⟨4, 8⟩)]⟩ } lateScope (recordedTwice.foldl Session.after
        ⟨patcher, lateScope.after Fragment.all.length⟩) [0x5b, 0x00] ∧
      patcher.patchNamed Scope.wrapped (lateScope.after Fragment.all.length) [0x5b, 0x00] =
        patchCode {} [0x5b, 0x00] := by
  have hs : (AddressMap.empty : Accounts).Sorted := AddressMap.sorted_empty
  obtain ⟨patcher, hnew, hall⟩ := answersOneShot_of_new {} hs lateScope
  have hstart := hall [] AddressMap.empty hs (fun _ => rfl) [0x5b, 0x00]
  have htaken (first : Scope) : scopesTaken (disassemble first [0x5b, 0x00]) = 8 := rfl
  have hcount : (lateScope.after Fragment.all.length).id + 8 ≤ lateScope.id + 2 ^ 64 := by
    show lateScope.id + 20 + 8 ≤ lateScope.id + 2 ^ 64
    omega
  refine ⟨hs, patcher, hnew, hall _ _ (List.pairwise_singleton _ _) (fun address => ?_) _,
    hstart.wrapped (by rw [htaken]; exact hcount)⟩
  have hlast : recorded recordedTwice = [(9, ⟨3, 7⟩), (9, ⟨4, 8⟩)] := rfl
  rw [hlast, AddressMap.find?, List.reverse_cons, List.reverse_singleton, List.singleton_append]
  simp only [AddressMap.lookup_cons]
  split <;> rfl

end Session

end Patcher

end EvmProbe
