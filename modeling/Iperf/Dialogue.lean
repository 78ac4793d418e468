import Iperf.Transition
import Mathlib.Tactic.Common

/-!
Two sequential parties that exchange messages over FIFO channels. A script is
the rest of one party's conversation; when the two scripts mirror each other
and each party keeps to its own, no interleaving can go wrong: messages are in
flight in one direction at a time, every message is heard where it is
expected, and the parties stop only at the end of their scripts.
-/

namespace Iperf.Dialogue

open Transition

universe u v w x
variable {Left : Type u} {Right : Type v} {Message : Type w} {Channel : Type x}

inductive Line (Message : Type w) where
  | tells (message : Message)
  | hears (message : Message)

def Line.mirror : Line Message → Line Message
  | .tells message => .hears message
  | .hears message => .tells message

@[simp] theorem mirror_mirror (line : Line Message) : line.mirror.mirror = line := by
  cases line <;> rfl

@[simp] theorem map_mirror_mirror (script : List (Line Message)) :
    (script.map Line.mirror).map Line.mirror = script := by
  simp [Function.comp_def]

/-- The moves of one party; `none` is a step that exchanges nothing. -/
abbrev Moves (Party : Type u) (Message : Type w) := Party → Option (Line Message) → Party → Prop

/-- What a party can do next. A party that listens on a channel takes whatever
arrives there. -/
inductive Act (Party : Type u) (Message : Type w) (Channel : Type x) where
  | tell (message : Message) (next : Party)
  | hear (source : Channel) (next : Message → Party)
  | pass (next : Party)

def Act.Does (channel : Message → Channel) :
    Act Left Message Channel → Option (Line Message) → Left → Prop
  | .tell message next, line, after => line = some (.tells message) ∧ after = next
  | .hear source next, line, after =>
      ∃ message, channel message = source ∧ line = some (.hears message) ∧ after = next message
  | .pass next, line, after => line = none ∧ after = next

/-- The moves of a party given by the list of its possible next acts. -/
def playing (channel : Message → Channel) (acts : Left → List (Act Left Message Channel)) :
    Moves Left Message :=
  fun party line next => ∃ act ∈ acts party, act.Does channel line next

/-- The messages a script hears before it tells anything. -/
def expected : List (Line Message) → List Message
  | .hears message :: rest => message :: expected rest
  | _ => []

theorem expected_ahead (ahead : List Message) (rest : List (Line Message)) :
    expected (ahead.map Line.hears ++ rest) = ahead ++ expected rest := by
  induction ahead with
  | nil => rfl
  | cons message others ih => simp [expected, ih]

section Joint
variable (channel : Message → Channel)

/-- `message` is the oldest message of its channel in `flight`; taking it
leaves `others`. -/
def Delivers (flight : List Message) (message : Message) (others : List Message) : Prop :=
  ∃ front back, flight = front ++ message :: back ∧
    (∀ earlier ∈ front, channel earlier ≠ channel message) ∧ others = front ++ back

/-- A script expects `message` next on its channel. -/
def Awaits (script : List (Line Message)) (message : Message) : Prop :=
  ∃ others, Delivers channel (expected script) message others

theorem Awaits.mem {channel : Message → Channel} {script : List (Line Message)}
    {message : Message} (awaits : Awaits channel script message) : message ∈ expected script := by
  obtain ⟨_, front, back, shape, _, _⟩ := awaits
  simp [shape]

structure Joint (Left : Type u) (Right : Type v) (Message : Type w) where
  left : Left
  right : Right
  toLeft : List Message
  toRight : List Message

def Joint.swap (joint : Joint Left Right Message) : Joint Right Left Message :=
  ⟨joint.right, joint.left, joint.toRight, joint.toLeft⟩

inductive Side where
  | left
  | right

def Side.other : Side → Side
  | .left => .right
  | .right => .left

abbrev Event (Message : Type w) := Side × Option (Line Message)

/-- A step of the left party. -/
inductive Turn (moves : Moves Left Message) :
    Joint Left Right Message → Option (Line Message) → Joint Left Right Message → Prop where
  | quiet {joint : Joint Left Right Message} {left : Left} :
      moves joint.left none left → Turn moves joint none { joint with left := left }
  | tells {joint : Joint Left Right Message} {left : Left} (message : Message) :
      moves joint.left (some (.tells message)) left →
      Turn moves joint (some (.tells message))
        { joint with left := left, toRight := joint.toRight ++ [message] }
  | hears {joint : Joint Left Right Message} {left : Left} {others : List Message}
      (message : Message) :
      Delivers channel joint.toLeft message others →
      moves joint.left (some (.hears message)) left →
      Turn moves joint (some (.hears message)) { joint with left := left, toLeft := others }

inductive Step (left : Moves Left Message) (right : Moves Right Message) :
    Joint Left Right Message → Event Message → Joint Left Right Message → Prop where
  | left {before after : Joint Left Right Message} {line : Option (Line Message)} :
      Turn channel left before line after → Step left right before (.left, line) after
  | right {before after : Joint Left Right Message} {line : Option (Line Message)} :
      Turn channel right before.swap line after.swap → Step left right before (.right, line) after

/-- A party keeps to its script, as long as it hears what the script expects. -/
structure KeepsTo (moves : Moves Left Message) (At : Left → List (Line Message) → Prop) : Prop where
  quiet : ∀ {party script next}, At party script → moves party none next → At next script
  tells : ∀ {party script message next}, At party script →
    moves party (some (.tells message)) next →
    ∃ rest, script = .tells message :: rest ∧ At next rest
  hears : ∀ {party script message next}, At party script →
    moves party (some (.hears message)) next → Awaits channel script message →
    ∃ rest, script = .hears message :: rest ∧ At next rest

/-- A party that is not over moves, and if it moves by a line then by the next
one of its script; one that is over has nothing left to tell. -/
structure Willing (moves : Moves Left Message) (At : Left → List (Line Message) → Prop)
    (ended : Left → Prop) : Prop where
  silent : ∀ {party script}, At party script → ended party → ∀ message, .tells message ∉ script
  active : ∀ {party script}, At party script → ¬ ended party →
    ∃ line next, moves party line next ∧ line.toList <+: script

/-- `KeepsTo`, act by act. -/
def Follows (At : Left → List (Line Message) → Prop) (script : List (Line Message)) :
    Act Left Message Channel → Prop
  | .pass next => At next script
  | .tell message next => ∃ rest, script = .tells message :: rest ∧ At next rest
  | .hear source next => ∀ message, channel message = source → Awaits channel script message →
      ∃ rest, script = .hears message :: rest ∧ At (next message) rest

theorem keepsTo_playing {acts : Left → List (Act Left Message Channel)}
    {At : Left → List (Line Message) → Prop}
    (follows : ∀ {party script}, At party script →
      ∀ act ∈ acts party, Follows channel At script act) :
    KeepsTo channel (playing channel acts) At where
  quiet := by
    rintro party script next here ⟨act, listed, does⟩
    have kept := follows here act listed
    cases act <;> simp_all [Act.Does, Follows]
  tells := by
    rintro party script message next here ⟨act, listed, does⟩
    have kept := follows here act listed
    cases act <;> simp_all [Act.Does, Follows]
  hears := by
    rintro party script message next here ⟨act, listed, does⟩ awaits
    have kept := follows here act listed
    cases act with
    | hear source proceed =>
        obtain ⟨heard, source, same, rfl⟩ := does
        cases same
        exact kept _ source awaits
    | tell said next => simp [Act.Does] at does
    | pass next => simp [Act.Does] at does

/-- The act can play the next line of the script, or plays none. -/
def Act.Ready (script : List (Line Message)) : Act Left Message Channel → Prop
  | .pass _ => True
  | .tell message _ => ∃ rest, script = .tells message :: rest
  | .hear source _ => ∃ message rest, script = .hears message :: rest ∧ channel message = source

theorem willing_playing {acts : Left → List (Act Left Message Channel)}
    {At : Left → List (Line Message) → Prop} {ended : Left → Prop}
    (silent : ∀ {party script}, At party script → ended party → ∀ message, .tells message ∉ script)
    (ready : ∀ {party script}, At party script → ¬ ended party →
      ∃ act ∈ acts party, act.Ready channel script) :
    Willing (playing channel acts) At ended where
  silent := silent
  active := by
    intro party script here active
    obtain ⟨act, listed, plays⟩ := ready here active
    cases act with
    | pass next => exact ⟨none, next, ⟨_, listed, rfl, rfl⟩, by simp⟩
    | tell message next =>
        obtain ⟨rest, rfl⟩ := plays
        exact ⟨some (.tells message), next, ⟨_, listed, rfl, rfl⟩, by simp⟩
    | hear source next =>
        obtain ⟨message, rest, rfl, same⟩ := plays
        exact ⟨some (.hears message), next message, ⟨_, listed, message, same, rfl, rfl⟩, by simp⟩

/-- Listening is safe on the channel of the next message. -/
theorem follows_hear {At : Left → List (Line Message) → Prop} {rest : List (Line Message)}
    {source : Channel} {next : Message → Left} {message : Message}
    (same : channel message = source) (there : At (next message) rest) :
    Follows channel At (.hears message :: rest) (.hear source next) := by
  rintro other heard ⟨_, front, back, shape, first, _⟩
  -- A later message of the channel is not the awaited one: `message` comes before it.
  cases front with
  | nil =>
      obtain ⟨rfl, -⟩ := List.cons.inj shape
      exact ⟨rest, rfl, there⟩
  | cons oldest later =>
      obtain ⟨rfl, -⟩ := List.cons.inj shape
      exact absurd (same.trans heard.symm) (first message (by simp))

/-- Listening is safe when the script has nothing to hear on that channel. -/
theorem follows_deaf {At : Left → List (Line Message) → Prop} {script : List (Line Message)}
    {source : Channel} {next : Message → Left}
    (elsewhere : ∀ message ∈ expected script, channel message ≠ source) :
    Follows channel At script (.hear source next) :=
  fun message heard awaits => absurd heard (elsewhere message awaits.mem)

/-- The receiver `far` still has the whole flight before it, and then the
conversation that the sender `near` has before it. -/
def Ahead (far near : List (Line Message)) (flight : List Message) : Prop :=
  far = flight.map Line.hears ++ near.map Line.mirror

def Balanced (joint : Joint Left Right Message) (left right : List (Line Message)) : Prop :=
  (joint.toLeft = [] ∧ Ahead right left joint.toRight) ∨
    (joint.toRight = [] ∧ Ahead left right joint.toLeft)

theorem Balanced.swap {joint : Joint Left Right Message} {left right : List (Line Message)}
    (balanced : Balanced joint left right) : Balanced joint.swap right left :=
  Or.symm balanced

theorem balanced_start {joint : Joint Left Right Message} (script : List (Line Message))
    (noneLeft : joint.toLeft = []) (noneRight : joint.toRight = []) :
    Balanced joint script (script.map Line.mirror) :=
  Or.inl ⟨noneLeft, by simp [Ahead, noneRight]⟩

section Turns
variable {channel} {moves : Moves Left Message} {At : Left → List (Line Message) → Prop}
  {before after : Joint Left Right Message} {left right : List (Line Message)}

/-- A party about to speak has nothing in flight towards it. -/
theorem Balanced.tells_ahead {message : Message}
    (balanced : Balanced before (.tells message :: left) right) :
    before.toLeft = [] ∧ Ahead right (.tells message :: left) before.toRight := by
  rcases balanced with sending | ⟨_, behind⟩
  · exact sending
  · -- With nothing in flight either way the two readings of the balance agree.
    cases flight : before.toLeft with
    | nil =>
        rename_i idle
        refine ⟨rfl, ?_⟩
        have mirrored : .tells message :: left = right.map Line.mirror := by
          simpa [Ahead, flight] using behind
        simp only [Ahead, idle, List.map_nil, List.nil_append, mirrored, map_mirror_mirror]
    | cons first others => simp [Ahead, flight] at behind

theorem tells_balanced {message : Message} {next : Left}
    (balanced : Balanced before (.tells message :: left) right) :
    Balanced { before with left := next, toRight := before.toRight ++ [message] } left right := by
  obtain ⟨quiet, ahead⟩ := balanced.tells_ahead
  refine Or.inl ⟨quiet, ?_⟩
  simpa [Ahead, Line.mirror] using ahead

/-- What is delivered to the left party is what its script awaits. -/
theorem Balanced.awaits {message : Message} {others : List Message}
    (balanced : Balanced before left right)
    (delivers : Delivers channel before.toLeft message others) :
    Ahead left right before.toLeft ∧ before.toRight = [] ∧ Awaits channel left message := by
  obtain ⟨front, back, shape, first, rfl⟩ := delivers
  rcases balanced with ⟨none, _⟩ | ⟨idle, behind⟩
  · simp [none] at shape
  · refine ⟨behind, idle, front ++ (back ++ expected (right.map Line.mirror)), front,
      back ++ expected (right.map Line.mirror), ?_, first, rfl⟩
    rw [show left = _ from behind, expected_ahead, shape]
    simp

theorem hears_balanced {message : Message} {others : List Message} {next : Left}
    (balanced : Balanced before (.hears message :: left) right)
    (delivers : Delivers channel before.toLeft message others) :
    Balanced { before with left := next, toLeft := others } left right := by
  obtain ⟨behind, idle, _⟩ := balanced.awaits delivers
  obtain ⟨front, back, shape, first, rfl⟩ := delivers
  refine Or.inr ⟨idle, ?_⟩
  -- The script starts with this message, so no older one of another channel is in front.
  cases front with
  | nil => simpa [Ahead, shape] using behind
  | cons oldest rest =>
      have same : oldest = message := by
        simp only [Ahead, shape, List.cons_append, List.map_cons, List.cons.injEq,
          Line.hears.injEq] at behind
        exact behind.1.symm
      exact absurd (by rw [same]) (first oldest (by simp))

/-- One turn of a party that keeps to its script. -/
theorem turn_balanced (keeps : KeepsTo channel moves At) (here : At before.left left)
    (balanced : Balanced before left right) {line : Option (Line Message)}
    (turn : Turn channel moves before line after) :
    ∃ rest, At after.left rest ∧ Balanced after rest right ∧
      left = line.toList ++ rest ∧ after.right = before.right := by
  cases turn with
  | quiet move => exact ⟨left, keeps.quiet here move, balanced, rfl, rfl⟩
  | tells message move =>
      obtain ⟨rest, rfl, there⟩ := keeps.tells here move
      exact ⟨rest, there, tells_balanced balanced, rfl, rfl⟩
  | hears message delivers move =>
      obtain ⟨rest, rfl, there⟩ := keeps.hears here move (balanced.awaits delivers).2.2
      exact ⟨rest, there, hears_balanced balanced delivers, rfl, rfl⟩

variable (channel) in
/-- A party whose next message is there is not stuck. -/
theorem turn_possible {ended : Left → Prop} (willing : Willing moves At ended)
    {script : List (Line Message)} (here : At before.left script) (active : ¬ ended before.left)
    (available : ∀ message rest, script = .hears message :: rest →
      ∃ others, Delivers channel before.toLeft message others) :
    ∃ event after, Turn channel moves before event after := by
  obtain ⟨line, next, move, rest, rfl⟩ := willing.active here active
  rcases line with none | (message | message)
  · exact ⟨_, _, .quiet move⟩
  · exact ⟨_, _, .tells message move⟩
  · obtain ⟨others, delivers⟩ := available message rest rfl
    exact ⟨_, _, .hears message delivers move⟩

end Turns

/-- Two parties that both listen have a message in flight. -/
theorem Balanced.in_flight {joint : Joint Left Right Message} {one other : Message}
    {left right : List (Line Message)}
    (balanced : Balanced joint (.hears one :: left) (.hears other :: right)) :
    joint.toLeft ≠ [] ∨ joint.toRight ≠ [] := by
  rcases balanced with ⟨_, ahead⟩ | ⟨_, behind⟩
  · refine Or.inr fun none => ?_
    simp [Ahead, none, Line.mirror] at ahead
  · refine Or.inl fun none => ?_
    simp [Ahead, none, Line.mirror] at behind

theorem delivers_first (message : Message) (flight : List Message) :
    Delivers channel (message :: flight) message flight :=
  ⟨[], flight, rfl, by simp, rfl⟩

end Joint

section Runs
variable {channel : Message → Channel} {leftMoves : Moves Left Message}
  {rightMoves : Moves Right Message} {AtLeft : Left → List (Line Message) → Prop}
  {AtRight : Right → List (Line Message) → Prop}

/-- Only boundedly many quiet steps separate two lines of a party. -/
structure Tires (moves : Moves Left Message) (rank : Left → Nat) (bound : Nat) : Prop where
  quiet : ∀ {party next}, moves party none next → rank next < rank party
  bounded : ∀ party, rank party ≤ bound

theorem tires_playing {acts : Left → List (Act Left Message Channel)} {rank : Left → Nat}
    {bound : Nat} (passes : ∀ {party next}, .pass next ∈ acts party → rank next < rank party)
    (bounded : ∀ party, rank party ≤ bound) : Tires (playing channel acts) rank bound where
  quiet := by
    rintro party next ⟨act, listed, does⟩
    cases act with
    | pass after =>
        obtain ⟨-, rfl⟩ := does
        exact passes listed
    | tell message after => simp [Act.Does] at does
    | hear source after => simp [Act.Does] at does
  bounded := bounded

def weight (rank : Left → Nat) (bound : Nat) (party : Left) (script : List (Line Message)) : Nat :=
  script.length * (bound + 1) + rank party

theorem turn_weight {before after : Joint Left Right Message} {rank : Left → Nat} {bound : Nat}
    (tires : Tires leftMoves rank bound) {line : Option (Line Message)}
    (turn : Turn channel leftMoves before line after) (rest : List (Line Message)) :
    weight rank bound after.left rest < weight rank bound before.left (line.toList ++ rest) := by
  cases turn with
  | quiet move =>
      have fewer := tires.quiet move
      simpa [weight] using fewer
  | tells message move =>
      rename_i next
      have small := tires.bounded next
      simp only [weight, Option.toList_some, List.singleton_append, List.length_cons,
        Nat.add_mul, Nat.one_mul]
      omega
  | hears message delivers move =>
      rename_i next _
      have small := tires.bounded next
      simp only [weight, Option.toList_some, List.singleton_append, List.length_cons,
        Nat.add_mul, Nat.one_mul]
      omega

variable {rankLeft : Left → Nat} {rankRight : Right → Nat} {bound : Nat}

/-- Every run of two parties with mirrored scripts keeps the conversation
balanced and uses up its length. -/
theorem run_balanced (keepsLeft : KeepsTo channel leftMoves AtLeft)
    (keepsRight : KeepsTo channel rightMoves AtRight) (tiresLeft : Tires leftMoves rankLeft bound)
    (tiresRight : Tires rightMoves rankRight bound) {init state : Joint Left Right Message}
    {past : List (Event Message)} (run : Run (Step channel leftMoves rightMoves) init past state)
    (script : List (Line Message)) (startLeft : AtLeft init.left script)
    (startRight : AtRight init.right (script.map Line.mirror)) (noneLeft : init.toLeft = [])
    (noneRight : init.toRight = []) :
    ∃ left right, AtLeft state.left left ∧ AtRight state.right right ∧
      Balanced state left right ∧
      past.length + (weight rankLeft bound state.left left +
        weight rankRight bound state.right right) ≤
      weight rankLeft bound init.left script +
        weight rankRight bound init.right (script.map Line.mirror) := by
  refine run.invariant (fun past state => ∃ left right, AtLeft state.left left ∧
    AtRight state.right right ∧ Balanced state left right ∧
    past.length + (weight rankLeft bound state.left left +
      weight rankRight bound state.right right) ≤
    weight rankLeft bound init.left script +
      weight rankRight bound init.right (script.map Line.mirror))
    ⟨script, _, startLeft, startRight, balanced_start script noneLeft noneRight, by simp⟩ ?_
  -- Each step shortens a script by its line or lowers the rank of one party.
  intro past before event after ⟨left, right, atLeft, atRight, balanced, spent⟩ step
  cases step with
  | left turn =>
      obtain ⟨rest, there, still, rfl, same⟩ := turn_balanced keepsLeft atLeft balanced turn
      have lighter := turn_weight tiresLeft turn rest
      refine ⟨rest, right, there, same ▸ atRight, still, ?_⟩
      simp only [List.length_append, List.length_singleton, same]
      omega
  | right turn =>
      obtain ⟨rest, there, still, rfl, same⟩ :=
        turn_balanced keepsRight atRight balanced.swap turn
      have lighter := turn_weight tiresRight turn rest
      have unchanged : after.left = before.left := same
      refine ⟨left, rest, unchanged ▸ atLeft, there, still.swap, ?_⟩
      simp only [List.length_append, List.length_singleton, unchanged]
      simp only [Joint.swap] at lighter
      omega

variable {overLeft : Left → Prop} {overRight : Right → Prop}

variable (channel) in
/-- While one party listens, either its message is there or the other party has
a line to play. -/
theorem partner_ready {state : Joint Left Right Message} {message : Message}
    {left right : List (Line Message)} (balanced : Balanced state (.hears message :: left) right) :
    (∃ others, Delivers channel state.toLeft message others) ∨
      (.tells message ∈ right ∧ ∀ heard rest, right = .hears heard :: rest →
        ∃ others, Delivers channel state.toRight heard others) := by
  rcases balanced with ⟨_, ahead⟩ | ⟨_, behind⟩
  · refine Or.inr ⟨by rw [show right = _ from ahead]; simp [Line.mirror], ?_⟩
    rintro heard rest rfl
    cases flight : state.toRight with
    | nil => simp [Ahead, flight, Line.mirror] at ahead
    | cons oldest others =>
        simp only [Ahead, flight, List.map_cons, List.cons_append, List.cons.injEq,
          Line.hears.injEq] at ahead
        exact ⟨others, ahead.1 ▸ delivers_first channel oldest others⟩
  · cases flight : state.toLeft with
    | nil =>
        have tells : right = .tells message :: left.map Line.mirror := by
          rw [← map_mirror_mirror right]
          simp only [Ahead, flight, List.map_nil, List.nil_append] at behind
          rw [← behind]
          rfl
        exact Or.inr ⟨by simp [tells], by simp [tells]⟩
    | cons oldest others =>
        simp only [Ahead, flight, List.map_cons, List.cons_append, List.cons.injEq,
          Line.hears.injEq] at behind
        exact Or.inl ⟨others, behind.1 ▸ delivers_first channel oldest others⟩

/-- When neither party can take a turn, each of them is over. -/
theorem idle_over {state : Joint Left Right Message} {left right : List (Line Message)}
    (willingLeft : Willing leftMoves AtLeft overLeft)
    (willingRight : Willing rightMoves AtRight overRight) (atLeft : AtLeft state.left left)
    (atRight : AtRight state.right right) (balanced : Balanced state left right)
    (idleLeft : ∀ line after, ¬ Turn channel leftMoves state line after)
    (idleRight : ∀ line after, ¬ Turn channel rightMoves state.swap line after) :
    overLeft state.left := by
  by_contra active
  have absent : ∃ message rest, left = .hears message :: rest ∧
      ¬ ∃ others, Delivers channel state.toLeft message others := by
    by_contra present
    obtain ⟨_, _, turn⟩ := turn_possible channel willingLeft atLeft active
      fun message rest shape => by
        by_contra missing
        exact present ⟨message, rest, shape, missing⟩
    exact idleLeft _ _ turn
  obtain ⟨message, rest, rfl, missing⟩ := absent
  obtain ⟨tells, available⟩ := (partner_ready channel balanced).resolve_left missing
  have busy : ¬ overRight state.right := fun finished =>
    willingRight.silent atRight finished message tells
  have atSwapped : AtRight state.swap.left right := atRight
  obtain ⟨_, _, turn⟩ := turn_possible channel willingRight atSwapped busy available
  exact idleRight _ _ turn

theorem stuck_over {state : Joint Left Right Message} {left right : List (Line Message)}
    (willingLeft : Willing leftMoves AtLeft overLeft)
    (willingRight : Willing rightMoves AtRight overRight) (atLeft : AtLeft state.left left)
    (atRight : AtRight state.right right) (balanced : Balanced state left right)
    (stuck : ∀ event after, ¬ Step channel leftMoves rightMoves state event after) :
    overLeft state.left ∧ overRight state.right := by
  have idleLeft : ∀ line after, ¬ Turn channel leftMoves state line after :=
    fun line after turn => stuck (.left, line) after (.left turn)
  have idleRight : ∀ line after, ¬ Turn channel rightMoves state.swap line after :=
    fun line after turn => stuck (.right, line) after.swap (.right turn)
  exact ⟨idle_over willingLeft willingRight atLeft atRight balanced idleLeft idleRight,
    idle_over willingRight willingLeft atRight atLeft balanced.swap idleRight idleLeft⟩

end Runs

end Iperf.Dialogue
