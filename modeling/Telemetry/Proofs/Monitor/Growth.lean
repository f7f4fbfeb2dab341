import Telemetry.Proofs.Metric.Growth
import Telemetry.Proofs.Monitor.Exposition

/-! # Counters do not go backwards

A meter is a series that counts, with the total behind its text. The meters of a monitor are the
series of its text but for the two gauges. Every request leaves each meter where it is or takes it
further, so a scraper that reads two texts of a run finds each series of the first again. A number
can only have fallen where its total has left the finite numbers, which are written as zero then, or
where the text of the total has lost zeros.
-/
namespace Telemetry.Monitor
open Telemetry.Metric (LabelKey Store Series Meter Gain Addend Block increments observations family
  counterMeters timingMeters numberBlock wholeText valueText scrape?)

/-- What a run observes is never negative. -/
theorem addend_observations (calls : List Call) : ∀ f ∈ timingFamilies,
    ∀ e ∈ observations f.name (changes calls), Addend e.2.1 := by
  have hvalue : ∀ t ∈ timers, ∀ c : Call, Addend (t.value c.tally) := by
    simp only [timers, List.forall_mem_cons]
    exact ⟨fun c => Metric.addend_amount _, fun c => Metric.addend_amount _, by simp⟩
  intro f hf e he
  obtain ⟨t, ht, rfl⟩ := exists_timer hf
  rw [observations_changes (timers_observe t ht)] at he
  obtain ⟨c, -, rfl⟩ := List.mem_map.mp he
  exact hvalue t ht c

section Meters

def gaugeNames : List String := [activeFamily.name, uptimeFamily.name]

/-- All series that count, with the totals of the store and of the alerts. -/
def meters (m : Monitor) : List Meter :=
  counterFamilies.flatMap (fun f => counterMeters f (family m.store.counters f.name)) ++
  timingFamilies.flatMap (fun f => timingMeters f (family m.store.histograms f.name)) ++
  counterMeters breachesFamily m.breaches

theorem mem_rows_blocks (m : Monitor) (uptime : Number) (s : Series) :
    s ∈ (m.blocks uptime).flatMap Block.rows ↔ s ∈ m.meters.map Meter.series ∨
      s ∈ (numberBlock activeFamily "gauge" valueText m.activity).rows ∨
      s ∈ (numberBlock uptimeFamily "gauge" valueText [([], uptime)]).rows := by
  simp only [blocks, meters, counterFamilies, timingFamilies, List.flatMap_cons, List.flatMap_nil,
    List.append_nil, List.map_append, List.mem_append, Metric.rows_counterBlock,
    Metric.rows_timingBlock, Metric.rows_numberBlock]
  tauto

theorem name_of_mem_numberBlock {f : Metric.Family} {kind : String} {text : Number → String}
    {samples : List (LabelKey × Number)} {s : Series}
    (hs : s ∈ (numberBlock f kind text samples).rows) : s.name = f.name := by
  obtain ⟨sample, -, rfl⟩ := List.mem_map.mp hs
  rfl

/-- A text that a scraper reads: once for each name and labels the meters and the gauges. -/
structure Exposes (m : Monitor) (text : String) (doc : List Series) : Prop where
  read : scrape? text = some doc
  once : (doc.map fun s => (s.name, s.labels)).Nodup
  counting : ∀ s ∈ doc, s.name ∉ gaugeNames → ∃ a ∈ m.meters, a.series = s
  complete : ∀ a ∈ m.meters, a.series ∈ doc

theorem exposes_lines {m : Monitor} {calls : List Call}
    (hstore : m.store = ({} : Store).applyAll (changes calls)) (uptime : Number) :
    Exposes m (String.intercalate "\n" (m.lines uptime ++ [""]))
      ((m.blocks uptime).flatMap Block.rows) := by
  have hsound := blocks_sound hstore uptime
  refine ⟨?_, Metric.nodup_blocks hsound (nodup_names m uptime), fun s hs hgauge => ?_,
    fun a ha => ?_⟩
  · rw [lines_eq]
    exact Metric.scrape?_blocks hsound
  · rcases (mem_rows_blocks m uptime s).mp hs with hs | hs | hs
    · exact List.mem_map.mp hs
    · exact absurd (name_of_mem_numberBlock hs) fun h => hgauge (by simp [gaugeNames, h])
    · exact absurd (name_of_mem_numberBlock hs) fun h => hgauge (by simp [gaugeNames, h])
  · exact (mem_rows_blocks m uptime a.series).mpr (.inl (List.mem_map_of_mem ha))

/-- The meters of a longer run. -/
theorem meters_climb {m n : Monitor} {calls more : List Call}
    (hm : m.store = ({} : Store).applyAll (changes calls))
    (hn : n.store = ({} : Store).applyAll (changes (calls ++ more)))
    (halerts : ∀ alert, (m.alerts.get alert).breachCount ≤ (n.alerts.get alert).breachCount) :
    ∀ a ∈ m.meters, ∃ b ∈ n.meters, a.Climbs b := by
  rw [changes_append] at hn
  intro a ha
  simp only [meters, List.mem_append, or_assoc] at ha ⊢
  rcases ha with ha | ha | ha
  · obtain ⟨f, hf, ha⟩ := List.mem_flatMap.mp ha
    have hgain := gain_increments (calls ++ more) f hf
    rw [changes_append] at hgain
    have hclimb := Metric.counters_climb fun e he => (hgain e he).2
    rw [← hm, ← hn] at hclimb
    obtain ⟨b, hb, hab⟩ := Metric.counterMeters_climb hclimb a ha
    exact ⟨b, .inl (List.mem_flatMap.mpr ⟨f, hf, hb⟩), hab⟩
  · obtain ⟨f, hf, ha⟩ := List.mem_flatMap.mp ha
    have haddend := addend_observations (calls ++ more) f hf
    rw [changes_append] at haddend
    have hclimb := Metric.histograms_climb haddend
    rw [← hm, ← hn] at hclimb
    obtain ⟨b, hb, hab⟩ := Metric.timingMeters_climb hclimb a ha
    exact ⟨b, .inr (.inl (List.mem_flatMap.mpr ⟨f, hf, hb⟩)), hab⟩
  · have hclimb : ∀ e ∈ m.breaches, ∃ total, (e.1, total) ∈ n.breaches ∧
        Metric.Climbs e.2 total := by
      intro e he
      obtain ⟨alert, halert, rfl⟩ := List.mem_map.mp he
      exact ⟨_, List.mem_map_of_mem halert, Metric.climbs_ofNat (halerts alert)⟩
    obtain ⟨b, hb, hab⟩ := Metric.counterMeters_climb hclimb a ha
    exact ⟨b, .inr (.inr hb), hab⟩

end Meters

/-- Two texts of a run, the second after more requests. Whatever the settings, the requests, the
clocks and the sockets are, a scraper reads both, and each series of the first but the gauges is in
the second once, under its name and labels, with a number that is not smaller. The number may fall
where the total has left the finite numbers in between, or where the text of the later total has
lost zeros that it needs. -/
theorem render_climbs (settings : Settings.Observability) (startedAt : Number)
    (calls more : List Call) (now later : Number) :
    let m := (start settings startedAt).run calls
    let n := m.run more
    ∃ text doc text' doc', m.render (.ok now) = .ok text ∧ scrape? text = some doc ∧
      n.render (.ok later) = .ok text' ∧ scrape? text' = some doc' ∧
      (doc'.map fun s => (s.name, s.labels)).Nodup ∧
      ∀ s ∈ doc, s.name ∉ gaugeNames → ∃ t ∈ doc', t.name = s.name ∧ t.labels = s.labels ∧
        ∃ a ∈ m.meters, ∃ b ∈ n.meters, a.series = s ∧ b.series = t ∧
          ((a.total.isFinite = true → b.format.Shows b.total) →
            (Number.ofText s.value).le (Number.ofText t.value) = true) := by
  intro m n
  have hm : m.settings = settings := run_settings _ calls
  have hn : n.settings = settings := (run_settings m more).trans hm
  by_cases hon : settings.prometheusEnabled = true
  · have hstore := store_run_start settings startedAt calls
    have hlater := store_run_start settings startedAt (calls ++ more)
    rw [run_append, stored_append] at hlater
    have hfirst := exposes_lines hstore (m.uptime now)
    have hsecond := exposes_lines hlater (n.uptime later)
    refine ⟨_, _, _, _, if_pos (hm ▸ hon), hfirst.read, if_pos (hn ▸ hon), hsecond.read,
      hsecond.once, fun s hs hgauge => ?_⟩
    obtain ⟨a, ha, rfl⟩ := hfirst.counting s hs hgauge
    obtain ⟨b, hb, hab⟩ := meters_climb hstore hlater (le_breachCount_run m more) a ha
    refine ⟨b.series, hsecond.complete b hb, hab.name, hab.labels, a, ha, b, hb, rfl, rfl,
      fun hshows => ?_⟩
    exact hab.text_mono hshows
  · -- Without the exposition both texts are empty.
    refine ⟨"", [], "", [], if_neg (hm ▸ hon), rfl, if_neg (hn ▸ hon), rfl, List.nodup_nil, ?_⟩
    intro s hs
    cases hs

theorem Exposes.sum {m : Monitor} {text : String} {doc : List Series} (h : Exposes m text doc)
    {f : Metric.Family} (hf : f ∈ timingFamilies) {key : LabelKey} {value : String}
    (hsum : (key, value) ∈
      (family m.store.histograms f.name).map fun e => (e.1, valueText e.2.sum)) :
    ⟨f.name ++ "_sum", Metric.pairLabels f.labels key, value⟩ ∈ doc := by
  obtain ⟨⟨key, histogram⟩, hmem, he⟩ := List.mem_map.mp hsum
  obtain ⟨rfl, rfl⟩ := Prod.mk.inj he
  refine h.complete ⟨_, _, .fixed, histogram.sum⟩ ?_
  refine List.mem_append_left _ (List.mem_append_right _ (List.mem_flatMap.mpr ⟨f, hf, ?_⟩))
  refine List.mem_flatMap.mpr ⟨_, List.mem_mergeSort.mpr hmem, ?_⟩
  exact List.mem_append_right _ (List.mem_cons_of_mem _ List.mem_cons_self)

section Sums

/-- A request that took some milliseconds. -/
def lasting (elapsedMs : String) : Call :=
  ⟨{ method := .text "GET", path := .text "/a", statusCode := .number 200
     elapsedMs := .number (Number.ofText elapsedMs) }, .ok 0, .calm⟩

def sumSeries (value : String) : Series :=
  ⟨requestDuration ++ "_sum", [("method", "GET"), ("path", "/a")], value⟩

/-- What a scraper reads of the durations under the usual settings. -/
theorem exists_sumSeries (calls : List Call) (value : String)
    (hsum : (["GET", "/a"], value) ∈
      (family ((start (Settings.Observability.resolve .absent) 0).run calls).store.histograms
        requestDuration).map fun e => (e.1, valueText e.2.sum)) :
    ∃ text doc, ((start (Settings.Observability.resolve .absent) 0).run calls).render (.ok 0) =
      .ok text ∧ scrape? text = some doc ∧ sumSeries value ∈ doc := by
  have hon : (Settings.Observability.resolve .absent).prometheusEnabled = true := by
    decide +kernel
  have hshows := exposes_lines (store_run_start (Settings.Observability.resolve .absent) 0 calls)
    (((start (Settings.Observability.resolve .absent) 0).run calls).uptime 0)
  have hsettings := run_settings (start (Settings.Observability.resolve .absent) 0) calls
  exact ⟨_, _, if_pos ((congrArg Settings.Observability.prometheusEnabled hsettings).trans hon),
    hshows.read, hshows.sum (f := requestDurationFamily) List.mem_cons_self hsum⟩

/-- Two durations of which the sum is no whole number. -/
theorem render_climbs_of_two_requests :
    let m := (start (Settings.Observability.resolve .absent) 0).run [lasting "2.75"]
    let n := m.run [lasting "0.5"]
    ∃ text doc text' doc', m.render (.ok 0) = .ok text ∧ scrape? text = some doc ∧
      n.render (.ok 0) = .ok text' ∧ scrape? text' = some doc' ∧ sumSeries "2.75" ∈ doc ∧
      ∃ t ∈ doc', t.name = requestDuration ++ "_sum" ∧
        (Number.ofText "2.75").le (Number.ofText t.value) = true := by
  intro m n
  obtain ⟨text, doc, text', doc', hrender, hread, hrender', hread', -, hclimbs⟩ :=
    render_climbs (Settings.Observability.resolve .absent) 0 [lasting "2.75"] [lasting "0.5"] 0 0
  obtain ⟨shown, series, hshown, hseries, hmem⟩ :=
    exists_sumSeries [lasting "2.75"] "2.75" (by decide +kernel)
  obtain rfl : text = shown := Except.ok.inj (hrender.symm.trans hshown)
  obtain rfl : doc = series := Option.some.inj (hread.symm.trans hseries)
  obtain ⟨t, ht, hname, -, a, ha, b, hb, -, -, hle⟩ := hclimbs _ hmem (by decide +kernel)
  have hfinite : ∀ b ∈ n.meters, b.format.Shows b.total := by
    simp only [meters, List.forall_mem_append, List.forall_mem_flatMap, List.forall_mem_map,
      counterMeters, timingMeters, Metric.sortSeries, List.mem_mergeSort]
    decide +kernel
  exact ⟨text, doc, text', doc', hrender, hread, hrender', hread', hmem, t, ht, hname,
    hle fun _ => hfinite b hb⟩

/-- A request that took more than half of the largest double. -/
def endlessCall : Call := lasting "1.7e308"

/-- After a second such request the sum is infinite, and its series reads zero. -/
theorem sum_falls_to_zero :
    let m := (start (Settings.Observability.resolve .absent) 0).run [endlessCall]
    let n := m.run [endlessCall]
    ∃ text doc text' doc', m.render (.ok 0) = .ok text ∧ scrape? text = some doc ∧
      n.render (.ok 0) = .ok text' ∧ scrape? text' = some doc' ∧
      ∃ s ∈ doc, ∃ t ∈ doc', s.name = requestDuration ++ "_sum" ∧ t.name = s.name ∧
        t.labels = s.labels ∧ (Number.ofText s.value).le (Number.ofText t.value) = false := by
  intro m n
  obtain ⟨text, doc, hrender, hread, hsum⟩ :=
    exists_sumSeries [endlessCall] "1.7e+308" (by decide +kernel)
  obtain ⟨text', doc', hrender', hread', hzero⟩ :=
    exists_sumSeries ([endlessCall] ++ [endlessCall]) "0" (by decide +kernel)
  rw [run_append] at hrender'
  exact ⟨text, doc, text', doc', hrender, hread, hrender', hread', _, hsum, _, hzero, rfl, rfl, rfl,
    by decide +kernel⟩

/-- A sum of `10 ^ 30` is finite and is written as a thousand, which is less than two thousand. -/
theorem sum_loses_zeros :
    let m := (start (Settings.Observability.resolve .absent) 0).run [lasting "2000"]
    let n := m.run [lasting "1e30"]
    ∃ text doc text' doc', m.render (.ok 0) = .ok text ∧ scrape? text = some doc ∧
      n.render (.ok 0) = .ok text' ∧ scrape? text' = some doc' ∧
      sumSeries "2000" ∈ doc ∧ sumSeries "1e+3" ∈ doc' ∧
      (Number.ofText "2000").le (Number.ofText "1e+3") = false := by
  intro m n
  obtain ⟨text, doc, hrender, hread, hsum⟩ :=
    exists_sumSeries [lasting "2000"] "2000" (by decide +kernel)
  obtain ⟨text', doc', hrender', hread', hshort⟩ :=
    exists_sumSeries ([lasting "2000"] ++ [lasting "1e30"]) "1e+3" (by decide +kernel)
  rw [run_append] at hrender'
  exact ⟨text, doc, text', doc', hrender, hread, hrender', hread', hsum, hshort, by decide +kernel⟩

end Sums

end Telemetry.Monitor
