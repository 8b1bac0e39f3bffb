import Mathlib.Logic.Relation
import Mathlib.Tactic.Lemma
import Cascade.Proofs.Service.Handling

/-!
# The gates of a notification

A notification goes through gates, and how far it has come is its `Progress`.  What it takes to pass
a gate is said by `Passes`, and what makes a gate refuse it, and with which fault, by `Refuses`.
Both are about headers, settings, the body and what the tracker answers, and not about the handling.

At the gates the tracker is only asked (`Passes.asks`, `Refuses.asks`).  The fault of a gate has a
status that depends on the gate (`Refuses.status_eq`), and all but two can always be told
(`Refuses.isTellable_eq`).
-/

namespace Cascade

open Tracker (Client Request Session)

/-- How far a notification has come, with what it has by then. -/
inductive Progress where
  | arrived
  | withToken (client : Client)
  | withRules (client : Client) (text : String)
  | withHook (client : Client) (text : String) (hook : Hook)
  | supported (client : Client) (text : String) (hook : Hook)
  | withParent (client : Client) (text : String) (hook : Hook) (parent : WorkItem)
  | ofRequirement (client : Client) (text : String) (hook : Hook) (parent : WorkItem)
  | withTrigger (client : Client) (text : String) (parent trigger : WorkItem)
  | gathered (client : Client) (text : String) (parent trigger : WorkItem)
    (children : List WorkItem)

/-- The number of steps to the last gate. -/
def Progress.stepsLeft : Progress → Nat
  | .arrived => 8
  | .withToken _ => 7
  | .withRules _ _ => 6
  | .withHook _ _ _ => 5
  | .supported _ _ _ => 4
  | .withParent _ _ _ _ => 3
  | .ofRequirement _ _ _ _ => 2
  | .withTrigger _ _ _ _ => 1
  | .gathered _ _ _ _ _ => 0

/-- Whether the fault can be told by which the next gate refuses.  That an event is not supported is
told together with its name, and that a parent is no requirement together with its type, which may
be any value. -/
def Progress.isTellable : Progress → Bool
  | .withHook _ _ hook => hook.eventType.isWhole
  | .withParent _ _ _ parent => Json.isWritable parent.type
  | _ => true

namespace Service

variable {s : Service} {r : WebRequest}

/-! ## Gates -/

/-- A notification gets one step further, while the session becomes another. -/
inductive Passes (s : Service) (r : WebRequest) : Progress × Session → Progress × Session → Prop
  | token {σ token} (h : s.token? r = some token) :
    Passes s r (.arrived, σ)
      (.withToken (s.clientFor token), ((s.clientFor token).connect.run σ).2)
  | download {client url text σ σ'} (haddress : s.rulesAddress? r = some url)
    (h : (client.readRules url).run σ = (.ok text, σ')) :
    Passes s r (.withToken client, σ) (.withRules client text, σ')
  | file {client file text σ} (haddress : s.rulesAddress? r = none)
    (hfile : s.rulesFile? = some file) (h : readText s.files (.ofText file.toList) = .ok text) :
    Passes s r (.withToken client, σ) (.withRules client (String.ofList text), σ)
  | body {client text v hook σ} (h : Json.readBody r.body = .ok v)
    (hhook : Hook.decode v = .valid hook) :
    Passes s r (.withRules client text, σ) (.withHook client text hook, σ)
  | event {client text hook σ} (h : hook.isSupported = true) :
    Passes s r (.withHook client text hook, σ) (.supported client text hook, σ)
  | parent {client text hook parent σ σ'}
    (h : (client.readParent hook).run σ = (.ok (some parent), σ')) :
    Passes s r (.supported client text hook, σ) (.withParent client text hook parent, σ')
  | requirement {client text hook parent σ} (h : s.isRequirement parent = true) :
    Passes s r (.withParent client text hook parent, σ)
      (.ofRequirement client text hook parent, σ)
  | trigger {client text hook parent url trigger σ σ'}
    (haddress : hook.triggeringUrl.filter (!·.isEmpty) = some url)
    (h : (client.readItem url).run σ = (.ok (some trigger), σ')) :
    Passes s r (.ofRequirement client text hook parent, σ)
      (.withTrigger client text parent trigger, σ')
  | children {client text parent trigger children σ σ'}
    (h : (client.readChildren parent).run σ = (.ok children, σ')) :
    Passes s r (.withTrigger client text parent trigger, σ)
      (.gathered client text parent trigger children, σ')

/-- A gate refuses a notification with a fault, leaving a session. -/
inductive Refuses (s : Service) (r : WebRequest) : Progress × Session → Fault → Session → Prop
  | noToken {σ} (h : s.token? r = none) :
    Refuses s r (.arrived, σ) (missingHeader tokenHeader) σ
  | noRules {client σ} (haddress : s.rulesAddress? r = none) (hfile : s.rulesFile? = none) :
    Refuses s r (.withToken client, σ) (missingHeader rulesHeader) σ
  | noDownload {client url fault σ σ'} (haddress : s.rulesAddress? r = some url)
    (h : (client.readRules url).run σ = (.error (.reported fault), σ')) :
    Refuses s r (.withToken client, σ) fault σ'
  | malformedBody {client text σ} (h : Json.readBody r.body = .error (.unreadable .malformed)) :
    Refuses s r (.withRules client text, σ) (invalidPayload (s.explainBody r.body)) σ
  | invalidBody {client text v issues σ} (h : Json.readBody r.body = .ok v)
    (hhook : Hook.decode v = .invalid issues) :
    Refuses s r (.withRules client text, σ) (invalidPayload (s.explainIssues v issues)) σ
  | unsupported {client text hook σ} (h : hook.isSupported = false) :
    Refuses s r (.withHook client text hook, σ) (.unsupportedEvent hook.eventType) σ
  | noParent {client text hook σ σ'} (h : (client.readParent hook).run σ = (.ok none, σ')) :
    Refuses s r (.supported client text hook, σ) (itemNotFound "Parent for" hook) σ'
  | noRequirement {client text hook parent σ} (h : s.isRequirement parent = false) :
    Refuses s r (.withParent client text hook parent, σ) (notRequirement parent) σ
  | noAddress {client text hook parent σ} (h : hook.triggeringUrl.filter (!·.isEmpty) = none) :
    Refuses s r (.ofRequirement client text hook parent, σ) (itemNotFound "Triggering" hook) σ
  | noTrigger {client text hook parent url σ σ'}
    (haddress : hook.triggeringUrl.filter (!·.isEmpty) = some url)
    (h : (client.readItem url).run σ = (.ok none, σ')) :
    Refuses s r (.ofRequirement client text hook parent, σ) (itemNotFound "Triggering" hook) σ'
  | rejectedRules {client text parent trigger children e σ}
    (h : (readRules s.settings.strict text).result = .error (.rejected e)) :
    Refuses s r (.gathered client text parent trigger children, σ) (.ofSyntaxError e) σ

/-- A notification gets as far as this, all gates on the way being passed. -/
abbrev Reaches (s : Service) (r : WebRequest) (start : Session) (p : Progress × Session) : Prop :=
  Relation.ReflTransGen (Passes s r) (.arrived, start) p

variable {p p' : Progress} {σ σ' : Session} {fault : Fault}

/-! ## Requests at the gates -/

/-- At a gate that is passed the tracker is only asked. -/
lemma Passes.asks (h : Passes s r (p, σ) (p', σ')) : σ.Asks (·.verb = .get) σ' := by
  cases h with
  | token h => exact Tracker.makesOnly_connect σ
  | download haddress h => exact (Tracker.makesOnly_readRules _).asks h
  | parent h => exact (Tracker.makesOnly_readParent _).asks h
  | trigger haddress h => exact (Tracker.makesOnly_readItem _).asks h
  | children h => exact (Tracker.makesOnly_readChildren _).asks h
  | file | body | event | requirement => exact .refl σ

lemma Refuses.asks (h : Refuses s r (p, σ) fault σ') : σ.Asks (·.verb = .get) σ' := by
  cases h with
  | noDownload haddress h => exact (Tracker.makesOnly_readRules _).asks h
  | noParent h => exact (Tracker.makesOnly_readParent _).asks h
  | noTrigger haddress h => exact (Tracker.makesOnly_readItem _).asks h
  | noToken | noRules | malformedBody | invalidBody | unsupported | noRequirement | noAddress
  | rejectedRules => exact .refl σ

lemma Passes.stepsLeft_lt (h : Passes s r (p, σ) (p', σ')) : p'.stepsLeft < p.stepsLeft := by
  cases h <;> exact Nat.lt_succ_self _

/-! ## Faults -/

/-- Whether the next step is to download the rules. -/
def downloads (s : Service) (r : WebRequest) : Progress → Bool
  | .withToken _ => (s.rulesAddress? r).isSome
  | _ => false

/-- The tracker is at fault for rules that cannot be downloaded, the caller for all else. -/
lemma Refuses.status_eq (h : Refuses s r (p, σ) fault σ') :
    fault.status = if s.downloads r p then 502 else 400 := by
  cases h with
  | noDownload haddress h =>
    have hfault := Tracker.reportsTracker_readRules _ σ fault (congrArg Prod.fst h)
    simp only [downloads, haddress, Option.isSome_some, if_true, hfault.1]
  | noRules haddress hfile =>
    simp only [downloads, haddress]
    rfl
  | _ => rfl

/-- A fault of the caller can be told if its details can be written; it has a message in characters
unless it repeats the name of an event. -/
lemma Refuses.isTellable_eq (h : Refuses s r (p, σ) fault σ') :
    fault.isTellable = p.isTellable := by
  cases h with
  | noDownload haddress h =>
    exact (Tracker.reportsTracker_readRules _ σ fault (congrArg Prod.fst h)).2.trans
      Text.isWhole_ofString
  | _ =>
    simp [missingHeader, invalidPayload, itemNotFound, notRequirement, Fault.validation,
      Fault.unsupportedEvent, Fault.workItemNotFound, Fault.general, Fault.ofSyntaxError,
      Fault.ruleSyntax, Fault.isTellable, Json.areEntriesWritable, Json.isWritable,
      Progress.isTellable]

end Service

end Cascade
