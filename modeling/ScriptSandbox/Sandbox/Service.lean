import ScriptSandbox.Sandbox.Basic

/-!
# Sandboxes and their callers

Callers use a sandbox side by side. A call finds out whether the sandbox is closed, leaves its job
with the worker and waits, and between any two of these steps anything can happen. A caller who
waits looks now and then for what there is to learn, or stops waiting; neither changes the sandbox.

A service also takes down the jobs that have been accepted, and all that the worker has heard from
the host while it did them.
-/

namespace ScriptSandbox

open Guest

/-- What a guest gets to hear of an answer: a value, or a session of this name whose methods have
the numbers from `first` on. -/
inductive HostReply
  | json (j : Json)
  | session (label : String) (first : HostId)

def HostSide.replyOf (h : HostSide) : Answer → HostReply
  | .json j => .json j
  | .session s =>
    .session ((h.stage.scene.sessions[s]?.map Session.label).getD "") h.callees.size

/-- The places at which a call can be. -/
inductive Caller.Place
  | arriving
  /-- The sandbox was not closed. The job is still to be handed in. -/
  | entering
  | refused (f : Failure)
  | waiting (a : Awaited)
  | returned (a : Awaited) (moment : Nat) (r : JobResult)
  /-- The caller has stopped waiting. -/
  | gone (a : Awaited)

structure Caller where
  job : Job
  /-- How long the caller is ready to wait, if not for ever. -/
  limit : Option Nat
  place : Caller.Place := .arriving

structure Service where
  sandbox : Sandbox
  callers : List Caller := []
  /-- The jobs that have been accepted, in order. -/
  jobs : List Job := []
  /-- What the worker has heard, and for which job, in order. -/
  replies : List (Ticket × HostReply) := []

/-- What a worker hears with its next move, and for which job. -/
def Worker.heard (w : Worker) (h : HostSide) : Option (Ticket × HostReply) :=
  match w.activity with
  | .calling ticket u _ =>
    match h.poll u with
    | (h, some a) => some (ticket, h.replyOf a)
    | (_, none) => none
  | _ => none

namespace Sandbox

/-- The job that an event leaves with the worker. -/
def taken (s : Sandbox) : Event → Option Job
  | .submit j =>
    match (s.submit j).2 with
    | .ok _ => some j
    | .error _ => none
  | _ => none

/-- What the worker hears with an event. -/
def heard (s : Sandbox) : Event → Option (Ticket × HostReply)
  | .work => s.worker.heard s.host
  | _ => none

end Sandbox

namespace Caller

/-- What a caller who waits has learnt when it looks. -/
def look (c : Caller) (s : Sandbox) : Caller :=
  match c.place with
  | .waiting a =>
    match s.learns a with
    | some r => { c with place := .returned a s.now r }
    | none => c
  | _ => c

def giveUp (c : Caller) : Caller :=
  match c.place with
  | .waiting a => { c with place := .gone a }
  | _ => c

end Caller

namespace Service

def putCaller (t : Service) (k : Nat) (c : Caller) : Service :=
  { t with callers := t.callers.set k c }

/-- A call goes on up to the point where it waits. -/
def step (t : Service) (k : Nat) : Service :=
  match t.callers[k]? with
  | none => t
  | some c =>
    match c.place with
    | .arriving =>
      t.putCaller k { c with place :=
        if t.sandbox.isClosed then .refused Sandbox.closedFailure else .entering }
    | .entering =>
      match t.sandbox.handIn c.job with
      | (sandbox, .ok ticket) =>
        { t with sandbox, jobs := t.jobs ++ [c.job] }.putCaller k
          { c with place := .waiting { ticket, deadline := c.limit.map t.sandbox.deadline } }
      | (_, .error f) => t.putCaller k { c with place := .refused f }
    | _ => t

inductive Event
  | call (j : Job) (limit : Option Nat)
  | step (k : Nat)
  | look (k : Nat)
  | giveUp (k : Nat)
  | sandbox (e : Sandbox.Event)

def apply (t : Service) : Event → Service
  | .call job limit => { t with callers := t.callers ++ [{ job, limit }] }
  | .step k => t.step k
  | .look k => { t with callers := t.callers.modify k (·.look t.sandbox) }
  | .giveUp k => { t with callers := t.callers.modify k Caller.giveUp }
  | .sandbox e =>
    { t with
      sandbox := t.sandbox.apply e
      jobs := t.jobs ++ (t.sandbox.taken e).toList
      replies := t.replies ++ (t.sandbox.heard e).toList }

def run (t : Service) (events : List Event) : Service := events.foldl apply t

end Service

end ScriptSandbox
