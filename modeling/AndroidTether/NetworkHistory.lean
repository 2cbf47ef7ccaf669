import AndroidTether.NetworkState

/-!
# The network state over many sessions

What a session sets up does not depend on what earlier sessions, or anything
else, have left behind.  Once it has ended, the entries it touched are gone,
however many sessions there were.  A list of calls is one of calls that
returned: after a panic of the main thread there is no next call.
-/

namespace AndroidTether

open MapWrites

/-- One call of `run_session` that returned, with where it did. -/
structure SessionRun where
  config : SessionConfig
  lease : Lease
  ifname : String
  exit : SessionExit
  returned : exit.Returns

def SessionRun.after (run : SessionRun) (before : NetworkState) :
    NetworkState :=
  runSession run.config run.lease run.ifname run.exit before

/-- The keys that are gone after a call. -/
def SessionRun.keys (run : SessionRun) : List String :=
  if run.exit = .ended then touchedKeys run.config else []

def SessionRun.destinations (run : SessionRun) : List Destination :=
  if run.exit = .ended then touchedRoutes run.config run.lease else []

theorem SessionRun.after_store (run : SessionRun) (before : NetworkState)
    (key : String) :
    (run.after before).store key =
      if key ∈ run.keys then none else before.store key := by
  obtain ⟨config, lease, ifname, exit, returned⟩ := run
  cases exit with
  | noDevice | initFailed | utunFailed | configureFailed => rfl
  | leasePanicked | panicked => exact returned.elim
  | ended =>
      change applyAll before.store _ key =
        if key ∈ touchedKeys config then none else before.store key
      rw [List.flatMap_append, sessionTeardown_keys]
      split_ifs with touched
      · apply applyAll_of_last_remove
        rw [lastTo_append, lastTo_map_remove touched]
        rfl
      · apply applyAll_of_not_written
        intro write isWrite sameKey
        apply touched
        rw [← sameKey]
        rcases List.mem_append.mp isWrite with written | removed
        · exact sessionSetup_keys config lease ifname write written
        · obtain ⟨key, member, rfl⟩ := List.mem_map.mp removed
          exact member

theorem SessionRun.after_routes (run : SessionRun) (before : NetworkState)
    (destination : Destination) :
    (run.after before).routes destination =
      if destination ∈ run.destinations then none
      else before.routes destination := by
  obtain ⟨config, lease, ifname, exit, returned⟩ := run
  cases exit with
  | noDevice | initFailed | utunFailed | configureFailed => rfl
  | leasePanicked | panicked => exact returned.elim
  | ended =>
      change applyAll before.routes _ destination =
        if destination ∈ touchedRoutes config lease then none
        else before.routes destination
      rw [List.flatMap_append, sessionSetup_routes, sessionTeardown_routes,
        touchedRoutes]
      cases config.noRoute with
      | true => rfl
      | false =>
          simp only [if_true, setDefaultRoute, SystemCall.routeWrites,
            List.flatMap_cons, List.flatMap_nil, List.append_nil,
            List.cons_append, List.nil_append, applyAll, List.foldl_cons,
            List.foldl_nil, Write.apply, Function.update_apply,
            List.mem_cons, List.not_mem_nil, or_false]
          split_ifs <;> simp_all

/-- The network state after calls in a row. -/
def afterSessions (runs : List SessionRun) (before : NetworkState) :
    NetworkState :=
  runs.foldl (fun state run => run.after state) before

/-- After any number of sessions just the entries are gone that one of them
touched.  The next session then sets up its own, whatever it finds: also what
is left of a session that was cut off. -/
theorem sessions_network (runs : List SessionRun) (before : NetworkState) :
    (∀ key, (afterSessions runs before).store key =
      if ∃ run ∈ runs, key ∈ run.keys then none else before.store key) ∧
    (∀ destination, (afterSessions runs before).routes destination =
      if ∃ run ∈ runs, destination ∈ run.destinations then none
      else before.routes destination) ∧
    ∀ cutOff config lease ifname,
      Active config lease ifname ((afterSessions runs before).after cutOff)
        (((afterSessions runs before).after cutOff).after
          (sessionSetup config lease ifname)) := by
  refine ⟨?_, ?_, fun cutOff config lease ifname =>
    setup_active config lease ifname _⟩
  · intro key
    exact @foldl_removes _ _ _ _ _ NetworkState.store
      (fun state run => run.after state) SessionRun.keys
      (fun state run => run.after_store state) runs before key
  · intro destination
    exact @foldl_removes _ _ _ _ _ NetworkState.routes
      (fun state run => run.after state) SessionRun.destinations
      (fun state run => run.after_routes state) runs before destination

end AndroidTether
