import HarnessProxy.Json.Parse
import HarnessProxy.Python.Reference

namespace HarnessProxy.Runtime

open HarnessProxy.Json

/-! # Cleanup of a supervised stage

`_cleanup_runtime` stops the observer and then goes through the containers and
the volumes of the stage.  One flag is threaded through all of them, and a step
that finds it set does nothing.
-/

inductive RuntimeStage where
  | preflight
  | scoreDirect
  | scoreProxy
deriving DecidableEq

/-- `_attestation_stage`; the direct stage has none and raises. -/
def attestationStage : RuntimeStage → Option Text
  | .preflight => some "preflight"
  | .scoreProxy => some "scored_proxy"
  | .scoreDirect => none

inductive Resource where
  | proxy
  | initializer
  | secretsVolume
  | timingVolume
deriving DecidableEq

namespace Resource

def label : Resource → Text
  | .proxy => "proxy"
  | .initializer => "initializer"
  | .secretsVolume => "secrets-volume"
  | .timingVolume => "timing-volume"

def isContainer : Resource → Bool
  | .proxy | .initializer => true
  | .secretsVolume | .timingVolume => false

def inspectCommand (resource : Resource) (name : Text) : List Text :=
  if resource.isContainer then
    ["docker", "container", "inspect", "--format", "\x7b\x7bjson .Config.Labels\x7d\x7d", name]
  else ["docker", "volume", "inspect", "--format", "\x7b\x7bjson .Labels\x7d\x7d", name]

def removeCommand (resource : Resource) (name : Text) : List Text :=
  if resource.isContainer then ["docker", "rm", "--force", name] else ["docker", "volume", "rm", name]

end Resource

structure CommandResult where
  returncode : Int
  stdout : Text := []
  stderr : Text := []

/-- What the calls to the observer do: `poll` and the two waits return or raise,
and so do the signals. -/
structure ObserverBehaviour where
  /-- `none` if it raises, `some none` if the process runs. -/
  poll : Option (Option Int)
  terminates : Bool
  waits : Bool
  kills : Bool
  waitsKilled : Bool

/-- What the runner does with the two commands for a resource, `none` if it
raises.  Each is run at most once. -/
structure ResourceBehaviour where
  inspect : Option CommandResult
  remove : Option CommandResult

/-- The arguments of `_cleanup_runtime`, and what its collaborators do. -/
structure CleanupRequest where
  py : Python
  manifest : Option Text
  instanceId : Option Text
  stage : RuntimeStage
  observer : Option ObserverBehaviour
  /-- The name of a resource whose creation was attempted. -/
  attempted : Resource → Option Text
  behaviour : Resource → ResourceBehaviour

/-- A command that was run for a resource, and what the runner did. -/
inductive Event where
  | inspect (resource : Resource) (command : List Text) (reply : Option CommandResult)
  | remove (resource : Resource) (command : List Text) (reply : Option CommandResult)

def Event.resource : Event → Resource
  | .inspect resource _ _ | .remove resource _ _ => resource

/-- `_resource_is_absent` -/
def resourceIsAbsent (result : CommandResult) : Bool :=
  result.returncode = 1 &&
    (Text.lower result.stderr).tails.any fun rest => (Text.literal "no such").isPrefixOf rest

def labelKey (name : Text) : Text := "io.shiftedx.qualification." ++ name

/-- `_owned_container_labels` and `_owned_volume_labels`, which are the same;
`none` if they raise. -/
def ownedLabels (py : Python) (serialized : Text) (manifest instanceId : Option Text) (stage : RuntimeStage)
    (label : Text) : Option Bool :=
  match manifest, instanceId with
  | some manifest, some instanceId => match loads py serialized with
    | .error .jsonDecodeError => some false
    | .error _ => none
    | .ok (.obj labels) =>
      if Object.get? labels (labelKey "manifest") = some (.str manifest) &&
          Object.get? labels (labelKey "instance") = some (.str instanceId) then
        (attestationStage stage).map fun stage =>
          Object.get? labels (labelKey "stage") = some (.str stage) &&
            Object.get? labels (labelKey "resource") = some (.str label)
      else some false
    | .ok _ => some false
  | _, _ => some false

namespace CleanupRequest

variable (request : CleanupRequest)

/-- The stop of the observer; true if it failed. -/
def stopObserver : Bool :=
  match request.observer with
  | none => false
  | some observer =>
    let stopped := match observer.poll with
      | none => false
      | some none => observer.terminates && observer.waits
      | some (some _) => true
    !stopped && !(observer.kills && observer.waitsKilled)

/-- `_remove_owned_container` and `_remove_owned_volume`: the commands, and
whether it failed, `none` if it raises. -/
def removeOwned (resource : Resource) (name : Text) : List Event × Option Bool :=
  let behaviour := request.behaviour resource
  let inspected := Event.inspect resource (resource.inspectCommand name) behaviour.inspect
  match behaviour.inspect with
  | none => ([inspected], none)
  | some result =>
    if result.returncode ≠ 0 then ([inspected], some (!resourceIsAbsent result))
    else match ownedLabels request.py result.stdout request.manifest request.instanceId request.stage resource.label with
      | none => ([inspected], none)
      | some false => ([inspected], some true)
      | some true =>
        ([inspected, .remove resource (resource.removeCommand name) behaviour.remove],
          behaviour.remove.map fun removed => removed.returncode ≠ 0)

/-- The blocks of `_cleanup_runtime` for these resources: `failed or ...`
evaluates nothing once the flag is set, and an exception sets it. -/
def sweep : Bool → List Resource → List Event × Bool
  | failed, [] => ([], failed)
  | failed, resource :: rest => match request.attempted resource with
    | none => sweep failed rest
    | some name =>
      if failed then sweep true rest
      else
        let (events, result) := request.removeOwned resource name
        let (others, final) := sweep (result.getD true) rest
        (events ++ others, final)

def cleanupRuntime : List Event × Bool :=
  request.sweep request.stopObserver [.proxy, .initializer, .secretsVolume, .timingVolume]

end CleanupRequest

/-! ## What cleanup promises -/

/-- The inspection shows exactly the labels of this manifest, instance, stage and
resource. -/
def ShowsOwned (request : CleanupRequest) (resource : Resource) (result : CommandResult) : Prop :=
  ∃ manifest instanceId stage labels, request.manifest = some manifest ∧ request.instanceId = some instanceId ∧
    attestationStage request.stage = some stage ∧ result.returncode = 0 ∧
    loads request.py result.stdout = .ok (.obj labels) ∧
    Object.get? labels (labelKey "manifest") = some (.str manifest) ∧
    Object.get? labels (labelKey "instance") = some (.str instanceId) ∧
    Object.get? labels (labelKey "stage") = some (.str stage) ∧
    Object.get? labels (labelKey "resource") = some (.str resource.label)

/-- The observer is stopped or absent. -/
def ObserverStopped (request : CleanupRequest) : Prop :=
  ∀ observer, request.observer = some observer → (∃ code, observer.poll = some (some code)) ∨
    observer.poll = some none ∧ observer.terminates = true ∧ observer.waits = true ∨
    observer.kills = true ∧ observer.waitsKilled = true

/-- The resource can be resolved: it is absent, or it is owned and its removal
exits with 0. -/
def Resolves (request : CleanupRequest) (resource : Resource) : Prop :=
  ∃ result, (request.behaviour resource).inspect = some result ∧
    (resourceIsAbsent result = true ∨ ShowsOwned request resource result ∧
      ∃ removed, (request.behaviour resource).remove = some removed ∧ removed.returncode = 0)

/-- The removal of an attempted resource fails. -/
def Fails (request : CleanupRequest) (resource : Resource) : Prop :=
  request.attempted resource ≠ none ∧ ¬ Resolves request resource

/-- The resource is inspected, and its forced removal is issued if that shows the
owned labels. -/
def Handled (request : CleanupRequest) (events : List Event) (resource : Resource) : Prop :=
  ∃ command reply, Event.inspect resource command reply ∈ events ∧
    ∀ result, reply = some result → ShowsOwned request resource result →
      ∃ command reply, Event.remove resource command reply ∈ events

/-- The resource was reported absent or removed with exit code 0. -/
def Settled (events : List Event) (resource : Resource) : Prop :=
  ∃ command result, Event.inspect resource command (some result) ∈ events ∧
    (resourceIsAbsent result = true ∨
      ∃ command removed, Event.remove resource command (some removed) ∈ events ∧ removed.returncode = 0)

/-- The claim of the cleanup about its commands and its result. -/
structure CleanedUp (request : CleanupRequest) (events : List Event) (failed : Bool) : Prop where
  containers : ∀ resource, resource.isContainer = true → request.attempted resource ≠ none →
    Handled request events resource
  volumes : (∀ container, container.isContainer = true → ¬ Fails request container) →
    ∀ resource, resource.isContainer = false → request.attempted resource ≠ none → Handled request events resource
  removals : ∀ before after resource command reply, events = before ++ .remove resource command reply :: after →
    ∃ earlier inspected result, before = earlier ++ [.inspect resource inspected (some result)] ∧
      ShowsOwned request resource result
  honest : failed = false → ObserverStopped request ∧ ∀ resource, request.attempted resource ≠ none →
    Settled events resource

/-- No failure comes before a resource that is still to be cleaned up. -/
structure NothingSkipped (request : CleanupRequest) : Prop where
  observer : ¬ ObserverStopped request → ∀ resource, request.attempted resource = none
  proxy : Fails request .proxy → request.attempted .initializer = none
  secrets : (∀ container, container.isContainer = true → ¬ Fails request container) →
    Fails request .secretsVolume → request.attempted .timingVolume = none

section
variable {request : CleanupRequest} {resource : Resource} {name : Text} {failed : Bool}

theorem stopObserver_eq_false : request.stopObserver = false ↔ ObserverStopped request := by
  unfold CleanupRequest.stopObserver ObserverStopped
  cases request.observer with
  | none => simp
  | some observer =>
      obtain ⟨poll, terminates, waits, kills, waitsKilled⟩ := observer
      rcases poll with _ | _ | code <;> simp [or_iff_not_imp_left]

theorem ownedLabels_eq_true (request : CleanupRequest) (resource : Resource) {result : CommandResult} (exits : result.returncode = 0) :
    ownedLabels request.py result.stdout request.manifest request.instanceId request.stage resource.label = some true ↔
      ShowsOwned request resource result := by
  unfold ownedLabels ShowsOwned
  cases request.manifest with
  | none => simp
  | some manifest =>
      cases request.instanceId with
      | none => simp
      | some instanceId =>
          cases read : loads request.py result.stdout with
          | error error => cases error <;> simp
          | ok value =>
              cases value with
              | obj labels =>
                  by_cases same : Object.get? labels (labelKey "manifest") = some (.str manifest) ∧
                      Object.get? labels (labelKey "instance") = some (.str instanceId)
                  · cases attestationStage request.stage <;> simp [exits, same]
                  · cases attestationStage request.stage with
                    | none => simp [same]
                    | some stage => simpa [same] using fun _ first second => absurd ⟨first, second⟩ same
              | null | bool _ | int _ | float _ | str _ | arr _ => simp

/-- What the steps for one resource can do. -/
inductive Swept (request : CleanupRequest) (resource : Resource) (name : Text) : List Event → Option Bool → Prop
  | unresolved {reply : Option CommandResult} {result : Option Bool}
      (replied : (request.behaviour resource).inspect = reply)
      (foreign : ∀ inspected, reply = some inspected → ¬ ShowsOwned request resource inspected)
      (present : ∀ inspected, reply = some inspected → resourceIsAbsent inspected = false)
      (fails : result.getD true = true) :
      Swept request resource name [.inspect resource (resource.inspectCommand name) reply] result
  | absent {inspected : CommandResult} (replied : (request.behaviour resource).inspect = some inspected)
      (absent : resourceIsAbsent inspected = true) :
      Swept request resource name [.inspect resource (resource.inspectCommand name) (some inspected)] (some false)
  | owned {inspected : CommandResult} {reply : Option CommandResult}
      (replied : (request.behaviour resource).inspect = some inspected)
      (shows : ShowsOwned request resource inspected) (removed : (request.behaviour resource).remove = reply) :
      Swept request resource name [.inspect resource (resource.inspectCommand name) (some inspected),
        .remove resource (resource.removeCommand name) reply]
        (reply.map fun removed => removed.returncode ≠ 0)

theorem absent_exits {result : CommandResult} (absent : resourceIsAbsent result = true) : result.returncode = 1 := by
  simp only [resourceIsAbsent, Bool.and_eq_true, decide_eq_true_eq] at absent
  exact absent.1

theorem removeOwned_swept (request : CleanupRequest) (resource : Resource) (name : Text) : Swept request resource name (request.removeOwned resource name).1
    (request.removeOwned resource name).2 := by
  unfold CleanupRequest.removeOwned
  dsimp only
  cases replied : (request.behaviour resource).inspect with
  | none => exact .unresolved replied (fun _ same => by cases same) (fun _ same => by cases same) rfl
  | some inspected =>
      dsimp only
      by_cases exits : inspected.returncode = 0
      · rw [if_neg (not_not.mpr exits)]
        have present : resourceIsAbsent inspected = false := by
          by_contra absent
          have one := absent_exits (Bool.eq_true_of_not_eq_false absent)
          omega
        have owned := ownedLabels_eq_true request resource exits
        split
        · next raises =>
          refine .unresolved replied (fun _ same shows => ?_) (fun _ same => by cases same; exact present) rfl
          cases same
          rw [owned.mpr shows] at raises
          cases raises
        · next foreign =>
          refine .unresolved replied (fun _ same shows => ?_) (fun _ same => by cases same; exact present) rfl
          cases same
          rw [owned.mpr shows] at foreign
          cases foreign
        · next labelled => exact .owned replied (owned.mp labelled) rfl
      · rw [if_pos exits]
        cases absent : resourceIsAbsent inspected with
        | true => exact .absent replied absent
        | false =>
            refine .unresolved replied (fun _ same shows => ?_) (fun _ same => by cases same; exact absent) rfl
            cases same
            obtain ⟨_, _, _, _, _, _, _, zero, _⟩ := shows
            exact exits zero

/-- The steps for a resource fail exactly if it does not resolve. -/
theorem Swept.fails_iff {events : List Event} {result : Option Bool} (swept : Swept request resource name events result) :
    result.getD true = true ↔ ¬ Resolves request resource := by
  cases swept with
  | unresolved replied foreign present fails =>
      refine ⟨fun _ => ?_, fun _ => fails⟩
      rintro ⟨inspected, found, absent | ⟨shows, _⟩⟩
      · rw [present inspected (replied.symm.trans found)] at absent
        cases absent
      · exact foreign inspected (replied.symm.trans found) shows
  | @absent inspected replied absent =>
      refine ⟨fun fails => ?_, fun unresolved => absurd ⟨inspected, replied, Or.inl absent⟩ unresolved⟩
      cases fails
  | @owned inspected reply replied shows removed =>
      constructor
      · rintro fails ⟨other, found, absent | ⟨_, last, lastReply, zero⟩⟩
        · cases replied.symm.trans found
          have one := absent_exits absent
          obtain ⟨_, _, _, _, _, _, _, zero, _⟩ := shows
          omega
        · cases removed.symm.trans lastReply
          simp [zero] at fails
      · intro unresolved
        cases reply with
        | none => rfl
        | some last =>
            refine decide_eq_true fun zero => unresolved ⟨inspected, replied, Or.inr ⟨shows, last, removed, zero⟩⟩

theorem Swept.handled {events : List Event} {result : Option Bool} (swept : Swept request resource name events result) :
    Handled request events resource := by
  cases swept with
  | unresolved replied foreign present fails =>
      exact ⟨_, _, List.mem_cons_self .., fun inspected same shows => absurd shows (foreign inspected same)⟩
  | @absent inspected replied absent =>
      refine ⟨_, _, List.mem_cons_self .., fun other same shows => ?_⟩
      cases same
      have one := absent_exits absent
      obtain ⟨_, _, _, _, _, _, _, zero, _⟩ := shows
      omega
  | owned replied shows removed =>
      exact ⟨_, _, List.mem_cons_self .., fun _ _ _ => ⟨_, _, List.mem_cons_of_mem _ (List.mem_singleton_self _)⟩⟩

/-- Every removal directly follows an inspection that shows the owned labels. -/
def Justified (request : CleanupRequest) (events : List Event) : Prop :=
  ∀ before after resource command reply, events = before ++ .remove resource command reply :: after →
    ∃ earlier inspected result, before = earlier ++ [.inspect resource inspected (some result)] ∧
      ShowsOwned request resource result

theorem Swept.justified {events : List Event} {result : Option Bool} (swept : Swept request resource name events result) :
    Justified request events := by
  intro before after target command reply split
  cases swept with
  | unresolved | absent =>
      rcases before with _ | ⟨first, before⟩
      · cases split
      · simp at split
  | owned replied shows removed =>
      rcases before with _ | ⟨first, _ | ⟨second, before⟩⟩
      · cases split
      · cases split
        exact ⟨[], _, _, rfl, shows⟩
      · simp at split

theorem Justified.append {events others : List Event} (first : Justified request events)
    (second : Justified request others) : Justified request (events ++ others) := by
  intro before after target command reply split
  rcases List.append_eq_append_iff.mp split with ⟨middle, rfl, rest⟩ | ⟨middle, rfl, rest⟩
  · obtain ⟨earlier, inspected, result, rfl, shows⟩ := second _ _ _ _ _ rest
    exact ⟨events ++ earlier, inspected, result, (List.append_assoc ..).symm, shows⟩
  · rcases middle with _ | ⟨event, middle⟩
    · obtain ⟨earlier, inspected, result, empty, _⟩ := second [] _ _ _ _ rest.symm
      simp at empty
    · cases rest
      exact first _ _ _ _ _ rfl

theorem Handled.mono {events others : List Event} (handled : Handled request events resource)
    (subset : ∀ event ∈ events, event ∈ others) : Handled request others resource := by
  obtain ⟨command, reply, inspected, removes⟩ := handled
  refine ⟨command, reply, subset _ inspected, fun result same shows => ?_⟩
  obtain ⟨removal, removed, member⟩ := removes result same shows
  exact ⟨removal, removed, subset _ member⟩

/-! ## The sweep -/

theorem sweep_failed (request : CleanupRequest) (resources : List Resource) :
    request.sweep true resources = ([], true) := by
  induction resources with
  | nil => rfl
  | cons resource rest ih =>
      rw [CleanupRequest.sweep]
      cases request.attempted resource with
      | none => exact ih
      | some name => exact ih

theorem sweep_justified (request : CleanupRequest) (failed : Bool) (resources : List Resource) :
    Justified request (request.sweep failed resources).1 := by
  induction resources generalizing failed with
  | nil =>
      intro before after target command reply split
      simp [CleanupRequest.sweep] at split
  | cons resource rest ih =>
      rw [CleanupRequest.sweep]
      split
      · exact ih failed
      · split
        · exact ih true
        · exact (removeOwned_swept _ _ _).justified.append (ih _)

theorem Swept.about {events : List Event} {result : Option Bool} (swept : Swept request resource name events result) :
    ∀ event ∈ events, event.resource = resource := by
  cases swept with
  | unresolved | absent => simp [Event.resource]
  | owned => simp [Event.resource]

/-- The commands for other resources say nothing about this one. -/
theorem handled_append {events others : List Event} (different : ∀ event ∈ events, event.resource ≠ resource) :
    Handled request (events ++ others) resource ↔ Handled request others resource := by
  constructor
  · rintro ⟨command, reply, inspected, removes⟩
    have only {event : Event} (about : event.resource = resource) (member : event ∈ events ++ others) : event ∈ others :=
      (List.mem_append.mp member).resolve_left fun own => different event own about
    refine ⟨command, reply, only rfl inspected, fun result same shows => ?_⟩
    obtain ⟨removal, removed, member⟩ := removes result same shows
    exact ⟨removal, removed, only rfl member⟩
  · exact fun handled => handled.mono fun event member => List.mem_append_right _ member

/-- A resource is handled exactly if the flag is not set when its turn comes. -/
theorem sweep_handled_iff (before after : List Resource) (attempted : request.attempted resource ≠ none)
    (fresh : resource ∉ before) : Handled request (request.sweep failed (before ++ resource :: after)).1 resource ↔
      failed = false ∧ ∀ earlier ∈ before, ¬ Fails request earlier := by
  induction before generalizing failed with
  | nil =>
      obtain ⟨name, found⟩ := Option.ne_none_iff_exists'.mp attempted
      simp only [List.nil_append, List.not_mem_nil, false_implies, implies_true, and_true, CleanupRequest.sweep, found]
      cases failed with
      | true => simp [sweep_failed, Handled]
      | false => exact iff_of_true ((removeOwned_swept _ _ _).handled.mono fun event member => List.mem_append_left _ member) rfl
  | cons first before ih =>
      have others (failed : Bool) := @ih failed fun member => fresh (List.mem_cons_of_mem _ member)
      rw [List.cons_append, CleanupRequest.sweep, List.forall_mem_cons]
      cases found : request.attempted first with
      | none => simp [others, Fails, found]
      | some name =>
          cases failed with
          | true => simp [sweep_failed, Handled]
          | false =>
              dsimp only
              have swept := removeOwned_swept request first name
              have fails := swept.fails_iff
              have about := swept.about
              generalize request.removeOwned first name = outcome at fails about ⊢
              obtain ⟨events, result⟩ := outcome
              have different : ∀ event ∈ events, event.resource ≠ resource := by
                intro event member same
                exact fresh (same ▸ about event member ▸ List.mem_cons_self ..)
              have firstFails : ¬ Fails request first ↔ result.getD true = false := by
                rw [← Bool.not_eq_true, fails, Fails, found]
                simp
              have step : Handled request (events ++ (request.sweep (result.getD true) (before ++ resource :: after)).1)
                  resource ↔ _ := (handled_append different).trans (others _)
              rw [← firstFails] at step
              exact step.trans (and_iff_right rfl).symm

theorem Swept.settled {events : List Event} {result : Option Bool} (swept : Swept request resource name events result)
    (succeeds : result.getD true = false) : Settled events resource := by
  cases swept with
  | unresolved replied foreign present fails =>
      rw [fails] at succeeds
      cases succeeds
  | absent replied absent => exact ⟨_, _, List.mem_cons_self .., Or.inl absent⟩
  | @owned inspected reply replied shows removed =>
      cases reply with
      | none => cases succeeds
      | some last =>
          refine ⟨_, _, List.mem_cons_self .., Or.inr ⟨_, last, List.mem_cons_of_mem _ (List.mem_singleton_self _), ?_⟩⟩
          simpa using succeeds

theorem Settled.mono {events others : List Event} (settled : Settled events resource)
    (subset : ∀ event ∈ events, event ∈ others) : Settled others resource := by
  obtain ⟨command, result, inspected, absent | ⟨removal, removed, member, zero⟩⟩ := settled
  · exact ⟨command, result, subset _ inspected, Or.inl absent⟩
  · exact ⟨command, result, subset _ inspected, Or.inr ⟨removal, removed, subset _ member, zero⟩⟩

/-- The flag is clear at the end only if every attempted resource is settled. -/
theorem sweep_honest {resources : List Resource} (clear : (request.sweep failed resources).2 = false) :
    failed = false ∧ ∀ resource ∈ resources, request.attempted resource ≠ none →
      Settled (request.sweep failed resources).1 resource := by
  induction resources generalizing failed with
  | nil => exact ⟨clear, fun _ member => by cases member⟩
  | cons first rest ih =>
      rw [CleanupRequest.sweep] at clear ⊢
      rw [List.forall_mem_cons]
      cases found : request.attempted first with
      | none =>
          rw [found] at clear
          obtain ⟨start, others⟩ := ih clear
          exact ⟨start, fun attempted => absurd rfl attempted, others⟩
      | some name =>
          rw [found] at clear
          cases failed with
          | true =>
              rw [sweep_failed] at clear
              cases clear
          | false =>
              obtain ⟨succeeds, others⟩ := ih clear
              refine ⟨rfl, fun _ => ?_, fun resource member attempted => ?_⟩
              · exact ((removeOwned_swept _ _ _).settled succeeds).mono fun event member => List.mem_append_left _ member
              · exact (others resource member attempted).mono fun event member => List.mem_append_right _ member

end

/-- When the turn of each resource comes. -/
theorem cleanup_handled_iff {request : CleanupRequest} {resource : Resource}
    (attempted : request.attempted resource ≠ none) :
    Handled request request.cleanupRuntime.1 resource ↔ ObserverStopped request ∧
      match resource with
      | .proxy => True
      | .initializer => ¬ Fails request .proxy
      | .secretsVolume => ¬ Fails request .proxy ∧ ¬ Fails request .initializer
      | .timingVolume => ¬ Fails request .proxy ∧ ¬ Fails request .initializer ∧ ¬ Fails request .secretsVolume := by
  rw [← stopObserver_eq_false]
  cases resource with
  | proxy =>
      refine (sweep_handled_iff [] _ attempted (by decide)).trans ?_
      simp
  | initializer =>
      refine (sweep_handled_iff [.proxy] _ attempted (by decide)).trans ?_
      simp
  | secretsVolume =>
      refine (sweep_handled_iff [.proxy, .initializer] _ attempted (by decide)).trans ?_
      simp
  | timingVolume =>
      refine (sweep_handled_iff [.proxy, .initializer, .secretsVolume] _ attempted (by decide)).trans ?_
      simp

/-- A stage whose observer outlives both waits and whose proxy runs. -/
def stuckObserver : CleanupRequest where
  py := .reference
  manifest := some "m"
  instanceId := some "i"
  stage := .scoreProxy
  observer := some ⟨some none, true, false, true, false⟩
  attempted
    | .proxy => some "shiftedx-qualification-score-proxy-i"
    | _ => none
  behaviour _ := ⟨none, none⟩

end HarnessProxy.Runtime
