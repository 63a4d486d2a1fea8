import Mathlib
import IdentityGroups.Proofs.Program.Transcript
import IdentityGroups.Sync.Pass

/-! # The requests of each operation

Every operation on a group is unfolded once into the requests that it sends and what it makes of each
reply. Answers given by anyone and by a store are both read off these equations.
-/

namespace IdentityGroups.Sync
open Program
variable {α β : Type}

theorem query_bind (q : Query α) (f : α → Query β) :
    (q >>= f).run = q.run >>= fun r => match r with
      | .ok a => (f a).run
      | .error e => done (.error e) := by
  refine congrArg (q.run >>= ·) (funext fun r => ?_)
  cases r <;> rfl

theorem update_bind (u : Update α) (f : α → Update β) (s : GroupState) :
    (u >>= f).run.run s = u.run.run s >>= fun r => match r with
      | (.ok a, s') => (f a).run.run s'
      | (.error e, s') => done (.error e, s') := by
  refine congrArg (u.run.run s >>= ·) (funext fun r => ?_)
  obtain ⟨_ | a, s'⟩ := r <;> rfl

theorem update_get (s : GroupState) : (get : Update GroupState).run.run s = done (.ok s, s) := rfl

theorem update_modify (g : GroupState → GroupState) (s : GroupState) :
    (modify g : Update PUnit).run.run s = done (.ok .unit, g s) := rfl

theorem update_within (q : Query α) (s : GroupState) :
    q.within.run.run s = q.run >>= fun r => done (r, s) := rfl

theorem update_map (u : Update α) (f : α → β) (s : GroupState) :
    (do return f (← u) : Update β).run.run s = u.run.run s >>= fun r => done (r.1.map f, r.2) := by
  rw [update_bind]
  refine congrArg (u.run.run s >>= ·) (funext fun r => ?_)
  obtain ⟨_ | a, s'⟩ := r <;> rfl

/-! ## Requests that ask -/

theorem run_send (r : Vault.Request) : (send r).run = call r fun reply => done (.ok reply) := rfl

theorem run_sendOr (error : Vault.Failure → Error) (r : Vault.Request) :
    (sendOr error r).run = call r fun reply => done (reply.mapError error) := by
  rw [sendOr, query_bind, run_send, call_bind]
  refine congrArg (call r) (funext fun reply => ?_)
  cases reply <;> rfl

theorem run_delete (id : String) : (delete id).run =
    call (.delete (Group.idPath id)) fun reply => done ((reply.mapError (.delete id)).map fun _ => ()) := by
  rw [delete, query_bind, run_sendOr, call_bind]
  refine congrArg (call _) (funext fun reply => ?_)
  cases reply <;> rfl

/-- A probe of a path, whose failure is about `key`. -/
theorem run_probe (key path : String) :
    (do return (payload? (← sendOr (.read .exists key) (.read path))).isSome : Query Bool).run =
      call (.read path) fun reply =>
        done ((reply.mapError (.read .exists key)).map fun response => (payload? response).isSome) := by
  rw [query_bind, run_sendOr, call_bind]
  refine congrArg (call _) (funext fun reply => ?_)
  cases reply <;> rfl

theorem run_isHeld {id : String} (h : id ≠ "") (fallbackName : String) : (isHeld id fallbackName).run =
    call (.read (Group.idPath id)) fun reply =>
      done ((reply.mapError (.read .exists id)).map fun response => (payload? response).isSome) := by
  rw [isHeld, if_neg h]
  exact run_probe id (Group.idPath id)

theorem run_isHeld_byName (name : String) : (isHeld "" name).run =
    call (.read (Group.namePath name)) fun reply =>
      done ((reply.mapError (.read .exists name)).map fun response => (payload? response).isSome) := by
  rw [isHeld, if_pos rfl]
  exact run_probe name (Group.namePath name)

def found (name : String) : Vault.Reply → Except Error (Option String)
  | .error f => .error (.read .lookup name f)
  | .ok response =>
    match payload? response with
    | none => .ok none
    | some secret =>
      match filled? (secret.text? "id") with
      | some id => .ok (some id)
      | none => .error (.malformed (Group.namePath name) "group payload did not contain an id")

theorem run_lookup (name : String) :
    (lookup name).run = call (.read (Group.namePath name)) fun reply => done (found name reply) := by
  rw [lookup, query_bind, run_sendOr, call_bind]
  refine congrArg (call _) (funext fun reply => ?_)
  cases reply with
  | error f => rfl
  | ok response =>
    simp only [found, Except.mapError, done_bind]
    cases payload? response with
    | none => rfl
    | some secret =>
      simp only
      cases filled? (secret.text? "id") <;> rfl

/-! ## Operations on the group at hand -/

def afterRead (s : GroupState) (id : String) : Vault.Reply → Except Error Outcome × GroupState
  | .error f => (if f.isExpiredCredential then .ok .skipped else .error (.read .read id f), s)
  | .ok response =>
    match payload? response with
    | none => (.ok .gone, { s with id := none })
    | some secret =>
      match Observed.decode (secret.data.getD .empty) with
      | .error m => (.error (.malformed (Group.idPath id) (Vault.Failure.decode m.message).message), s)
      | .ok observed => (.ok .refreshed, { s with group := observed.applyTo s.group })

theorem run_read {s : GroupState} {id : String} (h : s.id = some id) :
    read.run.run s = call (.read (Group.idPath id)) fun reply => done (afterRead s id reply) := by
  simp only [read, update_bind, update_get, done_bind, h, update_within, run_send, call_bind]
  refine congrArg (call _) (funext fun reply => ?_)
  cases reply with
  | error f =>
    simp only [afterRead]
    split <;> rfl
  | ok response =>
    simp only [afterRead]
    cases payload? response with
    | none => rfl
    | some secret =>
      simp only
      cases Observed.decode (secret.data.getD .empty) <;> rfl

theorem run_update {s : GroupState} {id : String} (h : s.id = some id) :
    update.run.run s = call (.write (Group.idPath id) s.group.updateBody) fun reply =>
      match reply with
      | .error f => done (.error (.write .update id f), s)
      | .ok _ => read.run.run s := by
  simp only [update, update_bind, update_get, done_bind, h, update_within, run_sendOr, call_bind]
  refine congrArg (call _) (funext fun reply => ?_)
  cases reply <;> rfl

/-- Takes `id` for the group at hand and reads it; what comes of the reading matters only if it fails. -/
def readBack (id : String) (s : GroupState) : Exchange (Except Error String × GroupState) :=
  read.run.run { s with id := some id } >>= fun r => done (r.1.map fun _ => id, r.2)

theorem run_readBack (id : String) (s : GroupState) :
    (do modify fun s => { s with id := some id }; let _ ← read; return id : Update String).run.run s =
      readBack id s := by
  rw [update_bind, update_modify, done_bind]
  exact update_map read (fun _ => id) _

theorem run_create (s : GroupState) :
    create.run.run s = call (.write Group.collectionPath s.group.createBody) fun reply =>
      match reply with
      | .error f => done (.error (.write .create s.group.name f), s)
      | .ok response =>
        match filled? (response.bind (·.text? "id")) with
        | some id => readBack id s
        | none => call (.read (Group.namePath s.group.name)) fun reply =>
          match found s.group.name reply with
          | .error e => done (.error e, s)
          | .ok none => done (.error (.malformed Group.collectionPath "response did not contain a group id"), s)
          | .ok (some id) => readBack id s := by
  rw [create, update_bind, update_get, done_bind]
  simp only
  rw [update_bind, update_within, run_sendOr, call_bind, call_bind]
  refine congrArg (call _) (funext fun reply => ?_)
  simp only [done_bind]
  cases reply with
  | error f => rfl
  | ok response =>
    simp only [Except.mapError]
    cases filled? (response.bind (·.text? "id")) with
    | some id => exact run_readBack id s
    | none =>
      simp only
      rw [update_bind, update_within, run_lookup, call_bind, call_bind]
      refine congrArg (call _) (funext fun reply => ?_)
      simp only [done_bind]
      rcases found s.group.name reply with e | _ | id
      · rfl
      · rfl
      · exact run_readBack id s

/-! ## Passes -/

theorem run_claim (replaced : Option String) (s : GroupState) :
    (claim replaced).run.run s = call (.read (Group.namePath s.group.name)) fun reply =>
      match found s.group.name reply with
      | .error e => done (.error e, s)
      | .ok (some id) => update.run.run { s with id := some id } >>= fun r =>
        done (r.1.map (⟨Action.adopted.orReplaced replaced, ·⟩), r.2)
      | .ok none => create.run.run s >>= fun r =>
        done (r.1.map fun _ =>
          ⟨Action.created.orReplaced replaced, if r.2.id.isSome then .refreshed else .gone⟩, r.2) := by
  rw [claim, update_bind, update_get, done_bind]
  simp only
  rw [update_bind, update_within, run_lookup, call_bind, call_bind]
  refine congrArg (call _) (funext fun reply => ?_)
  simp only [done_bind]
  rcases found s.group.name reply with e | _ | id
  · rfl
  · simp only
    rw [update_bind]
    refine congrArg (create.run.run s >>= ·) (funext fun r => ?_)
    obtain ⟨_ | _, _⟩ := r <;> rfl
  · simp only
    rw [update_bind, update_modify, done_bind]
    exact update_map update _ _

theorem run_maintain (id : String) (specChanged : Bool) (s : GroupState) :
    (maintain id specChanged).run.run s =
      if specChanged then update.run.run { s with id := some id } >>= fun r =>
        done (r.1.map (⟨.updated, ·⟩), r.2)
      else read.run.run { s with id := some id } >>= fun r => done (r.1.map (⟨.refreshed, ·⟩), r.2) := by
  rw [maintain, update_bind, update_modify, done_bind]
  cases specChanged with
  | true => exact update_map update _ _
  | false => exact update_map read _ _

theorem run_pass (tracked : Option Tracked) (specChanged : Bool) (s : GroupState) :
    (pass tracked specChanged).run.run s =
      match tracked with
      | none => (claim none).run.run { s with id := none }
      | some t =>
        if s.group.mustReplace t then
          call (.delete (Group.idPath t.id)) fun reply =>
            match reply with
            | .error f => done (.error (.delete t.id f), { s with id := none })
            | .ok _ => (claim (some t.id)).run.run { s with id := none }
        else (maintain t.id specChanged).run.run { s with id := none } := by
  unfold pass
  rw [update_bind, update_modify, done_bind]
  cases tracked with
  | none => rfl
  | some t =>
    simp only
    rw [update_bind, update_get, done_bind]
    simp only
    split
    · rw [update_bind, update_within, run_delete, call_bind, call_bind]
      refine congrArg (call _) (funext fun reply => ?_)
      cases reply <;> rfl
    · rfl

end IdentityGroups.Sync
