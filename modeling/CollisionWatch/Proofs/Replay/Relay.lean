import CollisionWatch.Proofs.Bus.Receiving
import CollisionWatch.Proofs.Files.Disk
import CollisionWatch.Replay.Session

/-!
# Forwarding a log among guests

While a recorded log is forwarded, others come to the bus, look, and leave as they like. They have a
turn before each cloud (`Company`); without them a log is forwarded as it is
(`Relay.progress_forward_none`). Forwarding is then nothing but publishing: what becomes of the bus
and its guests is what comes of the script that lists all turns, with one cloud published after each
(`Relay.forward_eq`). Of the clouds those are sent that somebody listens for at that moment, and for
each of the others there is one notice; a cloud that nobody listens for is gone. A listener that
comes in between receives the clouds that are published from then on (`serves_of_script_eq`). Main
statement: what is forwarded is the stream of the log (`forwardLog_forwards`).
-/

namespace CollisionWatch.Replay

open Files Observatory

/-! ## A log on its way -/

/-- What everybody else does while a log is forwarded. -/
structure Company where
  /-- Before the first cloud, before the second, and so on. -/
  turn : Nat → List Act
  /-- Nobody else publishes where the clouds are published. -/
  quiet : ∀ k, published .pointCloud (turn k) = []

/-- Nobody else is there. -/
def Company.none : Company := ⟨fun _ => [], fun _ => rfl⟩

/-- A log that is being forwarded among guests. -/
structure Relay where
  /-- The bus and its guests. -/
  observatory : Observatory
  /-- How many clouds reached somebody. -/
  delivered : Nat := 0
  /-- The notices. -/
  notices : List Notice := []

namespace Relay

/-- What the log knows of it: the bus, the clouds that reached somebody, and the notices. -/
def progress (r : Relay) : Progress := ⟨r.observatory.bus, r.delivered, r.notices⟩

/-- After a turn of everybody else one more cloud is published. -/
def send (r : Relay) (turn : List Act) (cloud : Cloud) (stamp : Stamp) : Relay :=
  let o := r.observatory.run turn
  let p := forwardOne { r.progress with bus := o.bus } cloud stamp
  ⟨{ o with bus := p.bus }, p.delivered, p.notices⟩

/-- Forward numbered clouds one after the other. -/
def forward (company : Company) (stamps : Nat → Stamp) (r : Relay) (clouds : List (Cloud × Nat)) :
    Relay :=
  clouds.foldl (fun r c => r.send (company.turn c.2) c.1 (stamps c.2)) r

end Relay

/-- Forward the log of a file at a rate, or all at once. The rate says when a cloud is sent and so
what the others have done by then, but not which cloud. -/
def forwardLog {m : Type → Type} [Monad m] [FileStore m] (path : String) (rate : Nat)
    (company : Company) (stamps : Nat → Stamp) (o : Observatory) : m (Except Fault Relay) := do
  match ← openLog path with
  | .error fault => return .error fault
  | .ok (clouds, notices) =>
    let paced := (timetable rate clouds).map (·.2)
    return .ok (Relay.forward company stamps { observatory := o, notices } paced.zipIdx)

/-! ## The script -/

/-- The event of a numbered cloud. -/
def eventOf (stamps : Nat → Stamp) (c : Cloud × Nat) : Event :=
  ⟨stamps c.2, "guardian-middleware::replay", .cloud c.1⟩

/-- All turns, and after each of them a cloud that is published. -/
def script (company : Company) (stamps : Nat → Stamp) : List (Cloud × Nat) → List Act
  | [] => []
  | c :: rest => company.turn c.2 ++
      .publish .pointCloud (eventOf stamps c) :: script company stamps rest

/-- How many listen to the clouds when each of them is published. -/
def audiences (company : Company) (stamps : Nat → Stamp) :
    Observatory → List (Cloud × Nat) → List Nat
  | _, [] => []
  | o, c :: rest =>
    let o := o.run (company.turn c.2)
    o.audience .pointCloud ::
      audiences company stamps (o.act (.publish .pointCloud (eventOf stamps c))) rest

/-- The events that somebody listens for, of those that are published to audiences. -/
def heard (events : List Event) (audiences : List Nat) : List Event :=
  (events.zip audiences).filterMap fun e => if 0 < e.2 then some e.1 else none

variable {company : Company} {stamps : Nat → Stamp}

/-- The script publishes every cloud, in order. -/
theorem published_script (clouds : List (Cloud × Nat)) :
    published .pointCloud (script company stamps clouds) = clouds.map (eventOf stamps) := by
  induction clouds with
  | nil => rfl
  | cons c rest ih =>
    rw [script, published_append, company.quiet, published_cons, ih]
    rfl

/-- Nothing is published on the other topic but by others. -/
theorem published_script_verdicts (clouds : List (Cloud × Nat)) :
    published .collisionWarning (script company stamps clouds) =
      published .collisionWarning (clouds.flatMap fun c => company.turn c.2) := by
  induction clouds with
  | nil => rfl
  | cons c rest ih =>
    rw [script, published_append, published_cons, ih, List.flatMap_cons, published_append]
    rfl

/-- Every cloud has its audience. -/
theorem length_audiences (o : Observatory) (clouds : List (Cloud × Nat)) :
    (audiences company stamps o clouds).length = clouds.length := by
  induction clouds generalizing o with
  | nil => rfl
  | cons c rest ih => exact congrArg Nat.succ (ih _)

/-! ## Forwarding is publishing -/

/-- One cloud is published, and counted if somebody listens. -/
theorem forwardOne_eq (p : Progress) (cloud : Cloud) (stamp : Stamp) :
    forwardOne p cloud stamp =
      { bus := (p.bus.publish .pointCloud
          ⟨stamp, "guardian-middleware::replay", .cloud cloud⟩).2
        delivered := p.delivered + if 0 < (p.bus.channel .pointCloud).listeners then 1 else 0
        notices := p.notices ++
          if 0 < (p.bus.channel .pointCloud).listeners then [] else [.cloudDropped] } := by
  unfold forwardOne Bus.publish
  by_cases hnobody : (p.bus.channel .pointCloud).listeners = 0
  · simp only [hnobody, if_true, Nat.lt_irrefl, if_false]
    rfl
  · simp only [hnobody, if_false, Nat.pos_of_ne_zero hnobody, if_true, List.append_nil]
    rfl

namespace Relay

/-- A cloud that is sent after a turn is a cloud that is published then; it is counted if there is
somebody who listens, and otherwise dropped with a notice. -/
theorem send_eq (r : Relay) (hsound : Sound r.observatory) (turn : List Act) (c : Cloud × Nat) :
    r.send turn c.1 (stamps c.2) =
      { observatory := (r.observatory.run turn).act (.publish .pointCloud (eventOf stamps c))
        delivered := r.delivered +
          if 0 < (r.observatory.run turn).audience .pointCloud then 1 else 0
        notices := r.notices ++
          if 0 < (r.observatory.run turn).audience .pointCloud then [] else [.cloudDropped] } := by
  rw [← (hsound.run turn).listeners, send, forwardOne_eq]
  rfl

/-- **Forwarding is publishing what the script says**, with an account of it. -/
theorem forward_eq (r : Relay) (hsound : Sound r.observatory) (clouds : List (Cloud × Nat)) :
    r.forward company stamps clouds =
      { observatory := r.observatory.run (script company stamps clouds)
        delivered := r.delivered +
          (audiences company stamps r.observatory clouds).countP (0 < ·)
        notices := r.notices ++ (audiences company stamps r.observatory clouds).flatMap
          fun audience => if 0 < audience then [] else [.cloudDropped] } := by
  induction clouds generalizing r with
  | nil => simp [forward, script, audiences, run]
  | cons c rest ih =>
    have hsend : r.send (company.turn c.2) c.1 (stamps c.2) = _ := r.send_eq hsound _ c
    have hnext : Sound (r.send (company.turn c.2) c.1 (stamps c.2)).observatory := by
      rw [hsend]
      exact (hsound.run (company.turn c.2)).act (.publish .pointCloud (eventOf stamps c))
    change (r.send (company.turn c.2) c.1 (stamps c.2)).forward company stamps rest = _
    rw [ih _ hnext, hsend, script, run_append, audiences, List.countP_cons, List.flatMap_cons,
      List.append_assoc, Nat.add_assoc, Nat.add_comm (List.countP _ _)]
    simp only [decide_eq_true_eq]
    rfl

/-- Without anybody else a log is forwarded as it is. -/
theorem progress_forward_none (r : Relay) (clouds : List (Cloud × Nat)) :
    (r.forward .none stamps clouds).progress =
      Replay.forward r.progress (clouds.map fun c => (c.1, stamps c.2)) := by
  induction clouds generalizing r with
  | nil => rfl
  | cons c rest ih => exact ih (r.send [] c.1 (stamps c.2))

end Relay

/-! ## What is sent -/

/-- The first event is heard if its audience is there, and then come the others. -/
theorem heard_cons (event : Event) (events : List Event) (audience : Nat) (audiences : List Nat) :
    heard (event :: events) (audience :: audiences) =
      (if 0 < audience then [event] else []) ++ heard events audiences := by
  unfold heard
  rw [List.zip_cons_cons, List.filterMap_cons]
  by_cases haudience : 0 < audience
  · rw [if_pos haudience]
    dsimp only
    rw [if_pos haudience]
    rfl
  · rw [if_neg haudience]
    dsimp only
    rw [if_neg haudience]
    rfl

/-- **The clouds that somebody listens for are sent, and no others.** -/
theorem sent_run_script {o : Observatory} (hsound : Sound o) (clouds : List (Cloud × Nat)) :
    ((o.run (script company stamps clouds)).bus.channel .pointCloud).sent.toList =
      (o.bus.channel .pointCloud).sent.toList ++
        heard (clouds.map (eventOf stamps)) (audiences company stamps o clouds) := by
  induction clouds generalizing o with
  | nil => exact (List.append_nil _).symm
  | cons c rest ih =>
    have hturn := hsound.run (company.turn c.2)
    have hsent := (o.run (company.turn c.2)).sent_act .pointCloud
      (.publish .pointCloud (eventOf stamps c))
    rw [Act.eventOn?, if_pos rfl] at hsent
    dsimp only at hsent
    rw [hturn.listeners, sent_run_of_quiet (company.quiet c.2)] at hsent
    rw [script, run_append]
    change ((((o.run _).act _).run _).bus.channel .pointCloud).sent.toList = _
    rw [ih (hturn.act _), hsent, audiences, List.map_cons, heard_cons]
    by_cases haudience : 0 < (o.run (company.turn c.2)).audience .pointCloud
    · rw [if_pos haudience, if_pos haudience, Array.toList_push, List.append_assoc]
    · rw [if_neg haudience, if_neg haudience, List.nil_append]

/-- Every cloud is counted or dropped. -/
theorem countP_add_countP_dropped (audiences : List Nat) :
    audiences.countP (0 < ·) + (audiences.flatMap fun audience =>
      if 0 < audience then [] else [Notice.cloudDropped]).countP
        (·.line = "WARN point cloud frame dropped") = audiences.length := by
  have hline : Notice.cloudDropped.line = "WARN point cloud frame dropped" := by decide
  induction audiences with
  | nil => rfl
  | cons audience rest ih =>
    rw [List.countP_cons, List.flatMap_cons, List.countP_append, List.length_cons, ← ih]
    by_cases haudience : 0 < audience
    · rw [if_pos haudience, if_pos (decide_eq_true haudience), List.countP_nil]
      omega
    · rw [if_neg haudience, if_neg (by simpa using haudience), List.countP_singleton,
        if_pos (decide_eq_true hline)]
      omega

/-! ## Who comes on the way -/

/-- A listener of clouds that comes between some acts and others is served, where these are numbered
clouds on their way. -/
structure Serves (o : Observatory) (stamps : Nat → Stamp) (clouds : List (Cloud × Nat))
    (before since : List Act) : Prop where
  /-- If it stays, there is room for each cloud at least in a channel that holds all that are
  left. -/
  room : .leave (o.run before).guests.length ∉ since →
    clouds.length ≤ (published .pointCloud before).length +
      (((o.run before).act (.listen .pointCloud)).bus.channel .pointCloud).capacity →
    ((o.run before).act (.listen .pointCloud)).HasRoom (o.run before).guests.length .pointCloud
      since
  /-- If it stays and there is room, it has received just the clouds that were left when it came, in
  order and without a lag, once it has looked as often as there are any; it may have looked
  before, and others may go on with anything but clouds. -/
  rest : ∀ later m, published .pointCloud later = [] →
    let place := (o.run before).guests.length
    let start := (o.run before).act (.listen .pointCloud)
    let first := (published .pointCloud before).length
    .leave place ∉ since ++ later → start.HasRoom place .pointCloud since →
      clouds.length ≤ first + m →
        let receipts := start.receipts place (since ++ later ++ List.replicate m (.look place))
        receipts.filterMap Receipt.event? = (clouds.map (eventOf stamps)).drop first ∧
          ∀ receipt ∈ receipts, receipt.isLag = false

/-- Who comes while the script is played is served. -/
theorem serves_of_script_eq {o : Observatory} (hsound : Sound o) {clouds : List (Cloud × Nat)}
    {before since : List Act}
    (hscript : script company stamps clouds = before ++ .listen .pointCloud :: since) :
    Serves o stamps clouds before since := by
  obtain ⟨listener, hattends, hnone⟩ := (o.run before).attends_listen .pointCloud
  have hstart := (hsound.run before).act (.listen .pointCloud)
  have hsince : published .pointCloud since =
      (clouds.map (eventOf stamps)).drop (published .pointCloud before).length := by
    have hall : published .pointCloud (script company stamps clouds) = _ := published_script clouds
    rw [← hall, hscript, published_append, List.drop_left]
    rfl
  have hlength := congrArg List.length hsince
  rw [List.length_drop, List.length_map] at hlength
  exact
    { room := fun hstays hle => by
        refine hattends.hasRoom_of_le hstart hstays ?_
        rw [hnone, List.nil_append, hlength]
        exact Nat.sub_le_of_le_add (Nat.add_comm _ _ ▸ hle)
      rest := by
        intro later m hquiet place start first hstays hroom hm
        have hpublished : published .pointCloud (since ++ later) =
            (clouds.map (eventOf stamps)).drop first := by
          rw [published_append, hquiet, List.append_nil, hsince]
        have hreceives := hattends.receives hstart hstays (hroom.append hquiet) (m := m) (by
          rw [hnone, List.nil_append, hpublished, ← hsince, hlength]
          exact Nat.sub_le_of_le_add (Nat.add_comm _ _ ▸ hm))
        rwa [hnone, List.nil_append, hpublished] at hreceives }

/-! ## The log of a file -/

/-- The timetable has every cloud in its place. -/
theorem map_snd_timetable (rate : Nat) (clouds : List Cloud) :
    (timetable rate clouds).map (·.2) = clouds := by
  unfold timetable
  rw [List.map_map]
  exact List.zipIdx_map_fst 0 clouds

/-- What opening a log gives. -/
theorem run_openLog {disk : Disk} {path text : String}
    (hread : (readText path : StateM Disk _).run disk = (.ok text, disk)) :
    (openLog path : StateM Disk _).run disk =
      (.ok ((FrameLog.read text).clouds, (FrameLog.read text).notices ++ [.logLoaded]), disk) := by
  rw [openLog, Disk.run_bind_of_run hread]
  rfl

/-- No notice of opening a log is that of a cloud that was dropped. -/
theorem countP_opening (log : FrameLog) :
    (log.notices ++ [Notice.logLoaded]).countP
      (fun notice : Notice => notice.line = "WARN point cloud frame dropped") = 0 := by
  rw [List.countP_append, Nat.add_eq_zero_iff]
  constructor
  · rw [List.countP_eq_zero]
    intro notice hnotice
    obtain ⟨line, -, rfl⟩ := List.mem_map.1 hnotice
    decide
  · decide

/-- A stream of clouds was forwarded from an observatory on. -/
structure Forwards (o : Observatory) (company : Company) (stamps : Nat → Stamp) (log : FrameLog)
    (r : Relay) : Prop where
  /-- What was done is what the script says: the turns of the others, and clouds published. -/
  acts : r.observatory = o.run (script company stamps log.clouds.zipIdx)
  /-- Where the clouds belong exactly the clouds of the log were published, once each and in
  order. -/
  clouds : published .pointCloud (script company stamps log.clouds.zipIdx) =
    log.clouds.zipIdx.map (eventOf stamps)
  /-- On the other topic others published, and nobody else. -/
  verdicts : published .collisionWarning (script company stamps log.clouds.zipIdx) =
    published .collisionWarning (log.clouds.zipIdx.flatMap fun c => company.turn c.2)
  /-- With nobody else about, it is what forwarding the clouds makes of the bus. -/
  alone : company = .none → r.progress = Replay.forward ⟨o.bus, 0, log.notices ++ [.logLoaded]⟩
    (log.clouds.zipIdx.map fun c => (c.1, stamps c.2))
  /-- The clouds that somebody listened for were counted. -/
  delivered : r.delivered =
    (audiences company stamps o log.clouds.zipIdx).countP (0 < ·)
  /-- For each of the others there is one notice, after those of opening the log. -/
  notices : r.notices = log.notices ++ .logLoaded ::
    (audiences company stamps o log.clouds.zipIdx).flatMap
      fun audience => if 0 < audience then [] else [.cloudDropped]
  /-- So every cloud is accounted for. -/
  balance : r.delivered + r.notices.countP (·.line = "WARN point cloud frame dropped") =
    log.clouds.length
  /-- The clouds that somebody listened for were sent. -/
  sent : (r.observatory.bus.channel .pointCloud).sent.toList =
    (o.bus.channel .pointCloud).sent.toList ++
      heard (log.clouds.zipIdx.map (eventOf stamps)) (audiences company stamps o log.clouds.zipIdx)
  /-- Nothing else ever reaches a listener of clouds, neither on the way nor later. -/
  nothing_else : ∀ later, published .pointCloud later = [] →
    ∀ acts, acts <+: script company stamps log.clouds.zipIdx ++ later →
      ∀ listener : Listener, listener.topic = .pointCloud →
        ∀ event, (listener.receive (o.run acts).bus).1 = .event event →
          event ∈ (o.bus.channel .pointCloud).sent.toList ++
            heard (log.clouds.zipIdx.map (eventOf stamps))
              (audiences company stamps o log.clouds.zipIdx)
  /-- A listener that comes on the way is served from then on. -/
  serves : ∀ before since, script company stamps log.clouds.zipIdx =
    before ++ .listen .pointCloud :: since → Serves o stamps log.clouds.zipIdx before since

/-- **What is forwarded is the stream of the log**, whoever comes and goes, at any rate. -/
theorem forwardLog_forwards {capacity : Nat} {bus : Bus} (hbus : Bus.create capacity = .ok bus)
    (earlier : List Act) {disk : Disk} {path text : String}
    (hread : (readText path : StateM Disk _).run disk = (.ok text, disk)) (rate : Nat)
    (company : Company) (stamps : Nat → Stamp) :
    ∃ r, (forwardLog path rate company stamps (run { bus } earlier) : StateM Disk _).run disk =
        (.ok r, disk) ∧
      Forwards (run { bus } earlier) company stamps (FrameLog.read text) r := by
  have hsound : Sound (run { bus } earlier) := (sound_of_create hbus).run earlier
  -- All that matters of the acts before is that they leave the bus and its guests in agreement.
  generalize run { bus } earlier = o at hsound
  generalize hlog : FrameLog.read text = log
  have hforward : (forwardLog path rate company stamps o : StateM Disk _).run disk =
      (.ok (Relay.forward company stamps
        { observatory := o, notices := log.notices ++ [.logLoaded] } log.clouds.zipIdx), disk) := by
    rw [forwardLog, Disk.run_bind_of_run (run_openLog hread), hlog]
    dsimp only
    rw [map_snd_timetable]
    rfl
  refine ⟨_, hforward, ?_⟩
  rw [Relay.forward_eq _ hsound]
  dsimp only
  exact
    { acts := rfl
      clouds := published_script _
      verdicts := published_script_verdicts _
      alone := by
        rintro rfl
        have halone : (Relay.forward .none stamps
            { observatory := o, notices := log.notices ++ [.logLoaded] }
            log.clouds.zipIdx).progress = _ := Relay.progress_forward_none _ _
        rwa [Relay.forward_eq _ hsound] at halone
      delivered := Nat.zero_add _
      notices := by rw [List.append_assoc, List.singleton_append]
      balance := by
        rw [List.countP_append, countP_opening, Nat.zero_add, Nat.zero_add,
          countP_add_countP_dropped, length_audiences, List.length_zipIdx]
      sent := sent_run_script hsound _
      nothing_else := by
        rintro later hquiet acts ⟨rest, hrest⟩ listener hlistener event hevent
        have hmem := Listener.mem_sent_of_receive hevent
        have hlater := (o.run acts).sent_prefix_run .pointCloud rest
        rw [← run_append, hrest, run_append, sent_run_of_quiet hquiet,
          sent_run_script hsound] at hlater
        rw [hlistener] at hmem
        exact hlater.subset hmem
      serves := fun _ _ hscript => serves_of_script_eq hsound hscript }

/-- Three clouds, with a comment after the first. -/
def drive : String := "[\"lidar\",1,[]]\n# pause\n[\"lidar\",2,[]]\n[\"lidar\",3,[]]"

/-- Somebody waits for verdicts. After the first cloud a listener and an observer of clouds come,
and after the second the listener looks and the observer leaves. -/
def visitors : Company where
  turn
    | 0 => [.listen .collisionWarning]
    | 1 => [.listen .pointCloud, .observe .pointCloud]
    | 2 => [.look 1, .leave 2]
    | _ => []
  quiet
    | 0 | 1 | 2 | _ + 3 => rfl

/-- A stamp for each cloud. -/
def driveStamp (k : Nat) : Stamp := ⟨k, ⟨k, 0⟩⟩

/-- The hypotheses hold of a bus with room for a single event. The first cloud is lost, and the
listener receives the other two without a lag, because it looks in between. -/
theorem forwardLog_forwards_drive :
    let bus : Bus := { clouds := { capacity := 1 }, verdicts := { capacity := 1 } }
    let disk : Disk := ⟨[(["drive"], .file drive.toUTF8)]⟩
    Bus.create 1 = .ok bus ∧ (readText "/drive" : StateM Disk _).run disk = (.ok drive, disk) ∧
      ∃ a b c r, (FrameLog.read drive).clouds = [a, b, c] ∧
        (forwardLog "/drive" 2 visitors driveStamp { bus } : StateM Disk _).run disk =
          (.ok r, disk) ∧
        r.delivered = 2 ∧ r.notices = [.logLoaded, .cloudDropped] ∧
        let event := eventOf driveStamp
        let before := [.listen .collisionWarning, .publish .pointCloud (event (a, 0))]
        let start := (run { bus } before).act (.listen .pointCloud)
        let receipts := start.receipts 1 [.observe .pointCloud, .publish .pointCloud (event (b, 1)),
          .look 1, .leave 2, .publish .pointCloud (event (c, 2)), .look 1, .look 1]
        receipts.filterMap Receipt.event? = [event (b, 1), event (c, 2)] ∧
          ∀ receipt ∈ receipts, receipt.isLag = false := by
  intro bus disk
  have hbus : Bus.create 1 = .ok bus := by cbv
  have hread : (readText "/drive" : StateM Disk _).run disk = (.ok drive, disk) := rfl
  have hlength : (FrameLog.read drive).clouds.length = 3 := by decide +kernel
  have hnotices : (FrameLog.read drive).notices = [] := by decide +kernel
  obtain ⟨a, b, c, hclouds⟩ := List.length_eq_three.1 hlength
  obtain ⟨r, hr, hforwards⟩ := forwardLog_forwards hbus [] hread 2 visitors driveStamp
  have hdelivered := hforwards.delivered
  have hnoted := hforwards.notices
  have hserves := hforwards.serves
  rw [hclouds] at hdelivered hnoted hserves
  rw [hnotices] at hnoted
  refine ⟨hbus, hread, a, b, c, r, hclouds, hr, hdelivered, hnoted, ?_⟩
  intro event before start
  let since : List Act := [.observe .pointCloud, .publish .pointCloud (event (b, 1)), .look 1,
    .leave 2, .publish .pointCloud (event (c, 2))]
  have hstays : .leave 1 ∉ since ++ [] := by simp [since]
  have hroom : start.HasRoom 1 .pointCloud since := by
    refine .cons ?_ (.cons ?_ (.cons ?_ (.cons ?_ (.cons ?_ .nil))))
    -- Nothing waits for the listener before either cloud; the others publish nothing.
    · rintro event ⟨⟩
    · exact fun _ _ => Nat.zero_lt_one
    · rintro event ⟨⟩
    · rintro event ⟨⟩
    · exact fun _ _ => Nat.zero_lt_one
  exact (hserves before since rfl).rest [] 2 rfl hstays hroom (Nat.le_refl 3)

end CollisionWatch.Replay
