import RepoSurvey.Drift.Snapshot

/-!
# Trends of an architecture

* `slope`: the slope of the regression line through a series.
* `TrendDirection.of`: whether a series improves, degrades or stays; a rise is for the worse.
* `decisionStability`: how few decisions come and go between neighbouring snapshots.
* `TrendSummary.of`: the snapshots and events of a window of time, in their order, with these measures.
-/

namespace RepoSurvey

inductive TrendDirection where
  | improving
  | stable
  | degrading
  deriving Repr, DecidableEq

inductive TimeWindow where
  | oneMonth
  | threeMonths
  | sixMonths
  | twelveMonths
  deriving Repr, DecidableEq

namespace TrendDirection

def name : TrendDirection → String
  | improving => "improving"
  | stable => "stable"
  | degrading => "degrading"

def all : List TrendDirection := [improving, stable, degrading]

end TrendDirection

namespace TimeWindow

def name : TimeWindow → String
  | oneMonth => "1mo"
  | threeMonths => "3mo"
  | sixMonths => "6mo"
  | twelveMonths => "12mo"

def all : List TimeWindow := [oneMonth, threeMonths, sixMonths, twelveMonths]

def days : TimeWindow → Nat
  | oneMonth => 30
  | threeMonths => 90
  | sixMonths => 180
  | twelveMonths => 365

end TimeWindow

/-- A snapshot in a series. -/
structure TrendPoint (α : Type) where
  date : Moment
  driftScore : α
  decisions : Int
  cycles : Int
  coupling : α
  violations : Int

structure TrendSummary (α : Type) where
  window : TimeWindow
  start : Moment
  finish : Moment
  points : List (TrendPoint α)
  drift : TrendDirection
  coupling : TrendDirection
  averageDrift : α
  stability : α
  topEvents : List DriftEvent

section

variable {α : Type} [Scalar α]

/-! ### Series -/

/-- The distance of a place in a series of `n` values from its middle. -/
def fromMiddle (n i : Nat) : α := Scalar.ofNat i - Scalar.quot ((n : Int) - 1) 2

/-- The least-squares slope of a series over the places of its values; zero for fewer than two. -/
def slope (values : List α) : α :=
  let n := values.length
  if n < 2 then Scalar.zero
  else
    let mean := Scalar.mean values
    let numerator := Scalar.sum (values.mapIdx fun i v => fromMiddle n i * (v - mean))
    let denominator : α := Scalar.sum ((List.range n).map fun i => fromMiddle n i * fromMiddle n i)
    numerator / denominator

/-- The slope that a series has to exceed to count as a rise. -/
def slopeLimit : α := Scalar.ofRat 0.05

def TrendDirection.of (values : List α) : TrendDirection :=
  if Scalar.lt slopeLimit (slope values) then .degrading
  else if Scalar.lt (slope values) (-slopeLimit : α) then .improving
  else .stable

/-! ### Decisions -/

/-- The distinct titles of a snapshot's decisions. -/
def titles (s : Snapshot α) : List String := (s.decisions.map (·.title)).eraseDups

/-- The titles that come or go between two snapshots, relative to the greater number of titles. -/
def changeRate (before after : List String) : α :=
  let gone := (before.filter (!after.contains ·)).length
  let come := (after.filter (!before.contains ·)).length
  Scalar.quot (come + gone : Nat) (max (max before.length after.length) 1 : Nat)

/-- The change rates between neighbours. -/
def changeRates : List (List String) → List α
  | before :: after :: rest => changeRate before after :: changeRates (after :: rest)
  | _ => []

/-- One less the mean change rate, at least zero; one for fewer than two snapshots. -/
def decisionStability (snapshots : List (Snapshot α)) : α :=
  if snapshots.length < 2 then Scalar.one
  else Scalar.larger Scalar.zero (Scalar.one - Scalar.mean (changeRates (snapshots.map titles)))

/-! ### Summaries -/

namespace TrendSummary

/-- How many events a summary shows. -/
def maxTopEvents : Nat := 10

/-- The snapshots since a moment, the earliest first. -/
def snapshotsSince (start : Moment) (ss : List (Snapshot α)) : List (Snapshot α) :=
  (ss.filter fun s => start.notAfter s.createdAt).mergeSort fun a b => a.createdAt.notAfter b.createdAt

/-- The events since a moment, the latest first. -/
def eventsSince (start : Moment) (es : List DriftEvent) : List DriftEvent :=
  (es.filter fun e => start.notAfter e.detectedAt).mergeSort fun a b => b.detectedAt.notAfter a.detectedAt

def pointOf (s : Snapshot α) : TrendPoint α :=
  ⟨s.createdAt, s.driftScore, s.decisions.length, s.stats.cycles, s.stats.coupling, s.violations⟩

/-- The summary of a series of snapshots, the earliest first, and of events, the latest first. -/
def ofSeries (window : TimeWindow) (start finish : Moment) (ss : List (Snapshot α)) (es : List DriftEvent) :
    TrendSummary α :=
  let scores := ss.map (·.driftScore)
  { window, start, finish
    points := ss.map pointOf
    drift := .of scores
    coupling := .of (ss.map (·.stats.coupling))
    averageDrift := Scalar.roundPlaces 2 (if scores.isEmpty then Scalar.zero else Scalar.mean scores)
    stability := Scalar.roundPlaces 3 (decisionStability ss)
    topEvents := es.take maxTopEvents }

/-- The summary of a window of time before a moment; nothing if the window begins before the calendar does. -/
def of? (ss : List (Snapshot α)) (es : List DriftEvent) (window : TimeWindow) (now : Moment) :
    Option (TrendSummary α) :=
  let finish := now.asUtc
  (finish.daysBefore? window.days).map fun start =>
    ofSeries window start finish (snapshotsSince start ss) (eventsSince start es)

end TrendSummary

end
end RepoSurvey
