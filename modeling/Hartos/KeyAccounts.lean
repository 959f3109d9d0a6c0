import Hartos.RatchetKeys

/-!
What each step of a user's pipeline does to the account of the keys in use.
-/
namespace Hartos.Ratchet
variable {Key Priv Pub Cipher : Type} {crypto : Crypto Key Priv Pub Cipher} {userId : String}
variable {rank : Key → Nat} {rootOf : Pub → Key} {world : World Key Priv Pub Cipher}

namespace Accounted

theorem initial : Accounted crypto userId rank rootOf World.initial where
  owned _ among := nomatch among
  works _ _ held := nomatch held
  rows _ _ held := nomatch held
  sent _ among := nomatch among
  header _ among := nomatch among
  before _ among := nomatch among
  apart := List.Pairwise.nil

section

variable (accounted : Accounted crypto userId rank rootOf world)
include accounted

theorem setWork (thread : Nat) (work : Option (Work Key Priv Pub Cipher))
    (good : ∀ held ∈ work, Prepared crypto userId held) :
    Accounted crypto userId rank rootOf
      { world with work := Function.update world.work thread work } where
  owned := accounted.owned
  works other held found := by
    by_cases same : other = thread
    · subst same
      simp only [Function.update_self] at found
      exact good held found
    · simp only [Function.update_of_ne same] at found
      exact accounted.works other held found
  rows := accounted.rows
  sent := accounted.sent
  header := accounted.header
  before := accounted.before
  apart := accounted.apart

-- A secret whose digest no bootstrap took before is logged.
theorem log (pair : Pair) (input : String)
    (unused : ∀ earlier ∈ world.bootstraps, earlier.2 ≠ input) :
    Accounted crypto userId rank rootOf
      { world with bootstraps := (pair, input) :: world.bootstraps } where
  owned first among second also same := by
    rcases List.mem_cons.mp among with rfl | among <;> rcases List.mem_cons.mp also with rfl | also
    · rfl
    · exact absurd same.symm (unused second also)
    · exact absurd same (unused first among)
    · exact accounted.owned first among second also same
  works := accounted.works
  rows other row held :=
    (accounted.rows other row held).imp_left fun ⟨input, ground⟩ =>
      ⟨input, ground.mono (fun _ => List.mem_cons_of_mem _) le_rfl⟩
  sent sent among :=
    (accounted.sent sent among).imp_left fun ⟨input, ground⟩ =>
      ⟨input, ground.mono (fun _ => List.mem_cons_of_mem _) le_rfl⟩
  header := accounted.header
  before := accounted.before
  apart := accounted.apart

theorem draw : Accounted crypto userId rank rootOf { world with drawn := world.drawn + 1 } where
  owned := accounted.owned
  works := accounted.works
  rows other row held :=
    (accounted.rows other row held).imp_left fun ⟨input, ground⟩ =>
      ⟨input, ground.mono (fun _ among => among) (Nat.le_succ _)⟩
  sent sent among :=
    (accounted.sent sent among).imp_left fun ⟨input, ground⟩ =>
      ⟨input, ground.mono (fun _ among => among) (Nat.le_succ _)⟩
  header := accounted.header
  before := accounted.before
  apart := accounted.apart

theorem put (pair : Pair) (after : RatchetState Key Priv Pub)
    (ground : HasGround crypto userId world.bootstraps world.drawn pair after)
    (named : rootOf after.ourDhPub = after.rootKey)
    (behind : ∀ sent ∈ world.sent, sent.pair = pair → ∀ input,
      Derived crypto (crypto.sha256 input) sent.state.rootKey →
        Derived crypto (crypto.sha256 input) after.rootKey → Before rank sent.state after) :
    Accounted crypto userId rank rootOf
      { world with stored := Function.update world.stored pair (some after) } where
  owned := accounted.owned
  works := accounted.works
  rows other row held := by
    by_cases same : other = pair
    · subst same
      simp only [Function.update_self] at held
      cases held
      exact ⟨ground, named⟩
    · simp only [Function.update_of_ne same] at held
      exact accounted.rows other row held
  sent := accounted.sent
  header := accounted.header
  before sent among row input held derived := by
    by_cases same : sent.pair = pair
    · simp only [same, Function.update_self] at held
      cases held
      exact behind sent among same input derived
    · simp only [Function.update_of_ne same] at held
      exact accounted.before sent among row input held derived
  apart := accounted.apart

theorem forget (conversation : String) :
    Accounted crypto userId rank rootOf
      { world with
        stored := fun pair =>
          if pair.conversation = conversation then none else world.stored pair } where
  owned := accounted.owned
  works := accounted.works
  rows other row held := by
    simp only at held
    split at held
    · cases held
    · exact accounted.rows other row held
  sent := accounted.sent
  header := accounted.header
  before sent among row input held := by
    simp only at held
    split at held
    · cases held
    · exact accounted.before sent among row input held
  apart := accounted.apart

end

/-- The root key of a public key that nothing uses yet may be chosen. -/
theorem name [DecidableEq Pub] (accounted : Accounted crypto userId rank rootOf world) (pub : Pub)
    (key : Key) (rows : ∀ pair row, world.stored pair = some row → row.ourDhPub ≠ pub)
    (sent : ∀ sent ∈ world.sent, sent.state.ourDhPub ≠ pub) :
    Accounted crypto userId rank (Function.update rootOf pub key) world where
  owned := accounted.owned
  works := accounted.works
  rows pair row held :=
    (accounted.rows pair row held).imp_right fun same =>
      (Function.update_of_ne (rows pair row held) ..).trans same
  sent envelope among :=
    (accounted.sent envelope among).imp_right fun same =>
      (Function.update_of_ne (sent envelope among) ..).trans same
  header := accounted.header
  before := accounted.before
  apart := accounted.apart

theorem record (accounted : Accounted crypto userId rank rootOf world)
    (envelope : Sent Key Priv Pub Cipher)
    (ground : HasGround crypto userId world.bootstraps world.drawn envelope.pair envelope.state)
    (named : rootOf envelope.state.ourDhPub = envelope.state.rootKey)
    (header : envelope.state.theirDhPub.isSome ∧
      envelope.envelope.ourPub = envelope.state.ourDhPub ∧
        envelope.envelope.idx = envelope.state.sendingIndex)
    (before : ∀ row, world.stored envelope.pair = some row → Before rank envelope.state row)
    (apart : ∀ earlier ∈ world.sent, envelope.state.rootKey = earlier.state.rootKey →
      envelope.state.sendingIndex ≠ earlier.state.sendingIndex) :
    Accounted crypto userId rank rootOf { world with sent := envelope :: world.sent } where
  owned := accounted.owned
  works := accounted.works
  rows := accounted.rows
  sent other among := by
    rcases List.mem_cons.mp among with rfl | among
    · exact ⟨ground, named⟩
    · exact accounted.sent other among
  header other among := by
    rcases List.mem_cons.mp among with rfl | among
    · exact header
    · exact accounted.header other among
  before other among row input held derived derived' := by
    rcases List.mem_cons.mp among with rfl | among
    · exact before row held
    · exact accounted.before other among row input held derived derived'
  apart := List.pairwise_cons.mpr ⟨apart, accounted.apart⟩

end Accounted
end Hartos.Ratchet
