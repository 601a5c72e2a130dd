import Formulary.Proofs.Markup.Contents
import Formulary.Proofs.Render.Registry
import Formulary.Render.Plan

/-!
# Plans — one job for each place of a document

The jobs of a plan are those of the contents of a document, one for one, in an order of their own. Each
is filed under the key of its place, and no two places have one key.

* `Plan.jobOf` — the job of a place.
* `Plan.jobs_perm` — the jobs of a plan are the jobs of the places.
* `Plan.total_eq`, `Plan.nodup_locations` — how many there are, and that their places are distinct.
* `CallsFor`, `IsFor`, `Covers` — what an entry calls for, its job, and the jobs of one kind of entries.
* `Plan.ofExtraction_spec` — the jobs of a plan against the entries, the index and the registry.
-/

namespace Formulary.Render
namespace Plan

open Markup

/-- The job of a place: a formula is drawn, an image is fetched or loaded. -/
def jobOf (fontSize : Binary32) (color : Color) : SourceRange × Content → Job
  | (range, .math latex style) => ⟨range.key, .draw ⟨latex, style, fontSize, color⟩⟩
  | (range, .image (.remote url)) => ⟨range.key, .fetch url⟩
  | (range, .image (.resource name)) => ⟨range.key, .load name⟩

variable {e : Extraction} {fontSize : Binary32} {color : Color}

theorem location_jobOf (place : SourceRange × Content) :
    (jobOf fontSize color place).location = place.1.key := by
  obtain ⟨range, content⟩ := place
  cases content with
  | math latex style => rfl
  | image reference =>
      cases reference with
      | remote url => rfl
      | resource name => rfl

/-- The images of a document are fetched or loaded. -/
theorem perm_imageJobs (images : List (SourceRange × ImageEntry)) :
    (images.filterMap remoteJob? ++ images.filterMap resourceJob?).Perm
      (images.map fun entry => jobOf fontSize color (entry.1, .image entry.2.reference)) := by
  induction images with
  | nil => exact List.Perm.refl _
  | cons entry rest ih =>
      obtain ⟨range, own, reference⟩ := entry
      cases reference with
      | remote url => exact ih.cons _
      | resource name => exact List.perm_middle.trans (ih.cons _)

/-- The jobs of a plan are those of the places of the document, one for one. -/
theorem jobs_perm (h : e.WellFormed) (fontSize : Binary32) (color : Color) :
    (ofExtraction e fontSize color).jobs.Perm (e.contents.map (jobOf fontSize color)) := by
  rw [jobs, ofExtraction, h.contents_eq, List.map_append, List.map_map, List.map_map]
  refine (List.perm_append_comm.append_right _).trans ?_
  rw [List.append_assoc]
  exact (perm_imageJobs e.images.entries).append_left _

theorem total_eq (p : Plan) : p.total = p.jobs.length := by
  rw [total, jobs, List.length_append, List.length_append]

/-- There are as many jobs as the document needs. -/
theorem length_jobs (h : e.WellFormed) (fontSize : Binary32) (color : Color) :
    (ofExtraction e fontSize color).jobs.length = e.jobCount := by
  rw [(jobs_perm h fontSize color).length_eq, List.length_map, Extraction.length_contents]

/-- No two jobs of a plan are for one place. -/
theorem nodup_locations (h : e.WellFormed) :
    ((ofExtraction e fontSize color).jobs.map Job.location).Nodup := by
  have hlocations : (e.contents.map (jobOf fontSize color)).map Job.location
      = (e.contents.map Prod.fst).map SourceRange.key := by
    rw [List.map_map, List.map_map]
    exact List.map_congr_left fun place _ => location_jobOf place
  rw [((jobs_perm h fontSize color).map Job.location).nodup_iff, hlocations]
  exact h.nodup_contents.map fun a b => SourceRange.key_injective

theorem mem_jobs_iff (h : e.WellFormed) {job : Job} :
    job ∈ (ofExtraction e fontSize color).jobs ↔
      ∃ place ∈ e.contents, jobOf fontSize color place = job := by
  rw [(jobs_perm h fontSize color).mem_iff, List.mem_map]

/-! ## Jobs and the entries that call for them -/

/-- What the entry at a range calls for: a formula is drawn as it is set, in the size and the colour of
    the request; an image at a web address is fetched, and any other image is loaded. -/
inductive CallsFor (e : Extraction) (fontSize : Binary32) (color : Color) (range : SourceRange) :
    Task → Prop
  | formula {m : MathEntry} (hentry : e.math.get? range = some m) :
      CallsFor e fontSize color range (.draw ⟨m.latex, m.style, fontSize, color⟩)
  | remote {i : ImageEntry} {url : WebUrl} (hentry : e.images.get? range = some i)
      (hreference : i.reference = .remote url) : CallsFor e fontSize color range (.fetch url)
  | resource {i : ImageEntry} {name : String} (hentry : e.images.get? range = some i)
      (hreference : i.reference = .resource name) : CallsFor e fontSize color range (.load name)

/-- A job does what the entry at a range calls for, and is filed under the key of that range. -/
structure IsFor (e : Extraction) (fontSize : Binary32) (color : Color) (range : SourceRange)
    (job : Job) : Prop where
  location : job.location = range.key
  task : CallsFor e fontSize color range job.task

/-- Jobs are those of the ranges of some kind, one for each range, in range order. -/
def Covers (e : Extraction) (fontSize : Binary32) (color : Color) (kind : SourceRange → Prop)
    (jobs : List Job) : Prop :=
  ∃ ranges : List SourceRange, ranges.Pairwise (fun a b => a.lt b = true) ∧
    (∀ r, r ∈ ranges ↔ kind r) ∧ List.Forall₂ (IsFor e fontSize color) ranges jobs

/-- The jobs picked from a map are those of the ranges that they were picked at. -/
theorem covers_filterMap {α : Type} {m : RangeMap α} {job? : SourceRange × α → Option Job}
    {kind : SourceRange → Prop}
    (hkind : ∀ r, kind r ↔ ∃ a job, m.get? r = some a ∧ job? (r, a) = some job)
    (hjob : ∀ r a job, m.get? r = some a → job? (r, a) = some job → IsFor e fontSize color r job) :
    Covers e fontSize color kind (m.entries.filterMap job?) := by
  refine ⟨(m.entries.filter fun entry => (job? entry).isSome).map Prod.fst, ?_, ?_, ?_⟩
  · exact List.pairwise_map.mpr (m.ordered.filter _)
  · intro r
    rw [hkind, List.mem_map]
    constructor
    · rintro ⟨⟨range, a⟩, hentry, rfl⟩
      obtain ⟨hmem, hsome⟩ := List.mem_filter.mp hentry
      obtain ⟨job, hpick⟩ := Option.isSome_iff_exists.mp hsome
      exact ⟨a, job, m.get?_eq_some_iff.mpr hmem, hpick⟩
    · rintro ⟨a, job, hget, hpick⟩
      refine ⟨(r, a), List.mem_filter.mpr ⟨m.get?_eq_some_iff.mp hget, ?_⟩, rfl⟩
      exact Option.isSome_iff_exists.mpr ⟨job, hpick⟩
  · exact List.forall₂_map_left_iff.mpr (forall₂_filterMap fun entry hentry job hpick =>
      hjob _ _ _ (m.get?_eq_some_iff.mpr hentry) hpick)

theorem mathJob_isFor {range : SourceRange} {m : MathEntry} (hentry : e.math.get? range = some m) :
    IsFor e fontSize color range (mathJob fontSize color (range, m)) where
  location := rfl
  task := .formula hentry

theorem remoteJob?_eq_some_iff {range : SourceRange} {i : ImageEntry} {job : Job} :
    remoteJob? (range, i) = some job
      ↔ ∃ url, i.reference = .remote url ∧ job = ⟨range.key, .fetch url⟩ := by
  obtain ⟨own, reference⟩ := i
  cases reference with
  | remote url => simp [remoteJob?, eq_comm]
  | resource name => simp [remoteJob?]

theorem resourceJob?_eq_some_iff {range : SourceRange} {i : ImageEntry} {job : Job} :
    resourceJob? (range, i) = some job
      ↔ ∃ name, i.reference = .resource name ∧ job = ⟨range.key, .load name⟩ := by
  obtain ⟨own, reference⟩ := i
  cases reference with
  | remote url => simp [resourceJob?]
  | resource name => simp [resourceJob?, eq_comm]

theorem covers_math :
    Covers e fontSize color (fun r => ∃ m, e.math.get? r = some m)
      (ofExtraction e fontSize color).math := by
  have hmap : (ofExtraction e fontSize color).math
      = e.math.entries.filterMap (some ∘ mathJob fontSize color) :=
    (List.filterMap_eq_map ..).symm ▸ rfl
  rw [hmap]
  refine covers_filterMap ?_ ?_
  · intro r
    simp
  · intro r m job hentry hjob
    rw [← Option.some.inj hjob]
    exact mathJob_isFor hentry

/-- The jobs of the images whose references are of one form. -/
theorem covers_images {α : Type} {job? : SourceRange × ImageEntry → Option Job}
    {reference : α → ImageReference} {task : α → Task}
    (hjob : ∀ r i job, job? (r, i) = some job
      ↔ ∃ a, i.reference = reference a ∧ job = ⟨r.key, task a⟩)
    (hcalls : ∀ r i a, e.images.get? r = some i → i.reference = reference a →
      CallsFor e fontSize color r (task a)) :
    Covers e fontSize color (fun r => ∃ i a, e.images.get? r = some i ∧ i.reference = reference a)
      (e.images.entries.filterMap job?) := by
  refine covers_filterMap ?_ ?_
  · intro r
    simp only [hjob]
    constructor
    · rintro ⟨i, a, hentry, hreference⟩
      exact ⟨i, _, hentry, a, hreference, rfl⟩
    · rintro ⟨i, job, hentry, a, hreference, -⟩
      exact ⟨i, a, hentry, hreference⟩
  · intro r i job hentry hpick
    obtain ⟨a, hreference, rfl⟩ := (hjob r i job).mp hpick
    exact ⟨rfl, hcalls r i a hentry hreference⟩

/-- The job of a place is for the entry there. -/
theorem jobOf_isFor (h : e.WellFormed) {place : SourceRange × Content} (hplace : place ∈ e.contents) :
    IsFor e fontSize color place.1 (jobOf fontSize color place) := by
  obtain ⟨range, content⟩ := place
  refine ⟨location_jobOf _, ?_⟩
  rcases h.entry_of_mem hplace with ⟨m, hentry, rfl⟩ | ⟨⟨place, reference⟩, hentry, rfl⟩
  · exact .formula hentry
  · cases reference with
    | remote url => exact .remote hentry rfl
    | resource name => exact .resource hentry rfl

/-- **A plan has one job for each entry**, whatever was found in a text. The jobs of each kind are those
    of its entries in range order, each doing what its entry calls for. No two have one key, the key of
    each is read back as the range of its entry and stands for it in the index, there are as many as the
    index holds places, and a registry in which the document is registered with this index keeps the
    outcome of every one of them. -/
theorem ofExtraction_spec {f : Findings} {table : PlaceholderTable} (h : f.convert table = .ok e)
    (fontSize : Binary32) (color : Color) :
    let plan := ofExtraction e fontSize color
    (Covers e fontSize color (fun r => ∃ m, e.math.get? r = some m) plan.math ∧
      Covers e fontSize color
        (fun r => ∃ i url, e.images.get? r = some i ∧ i.reference = .remote url) plan.remote ∧
      Covers e fontSize color
        (fun r => ∃ i name, e.images.get? r = some i ∧ i.reference = .resource name) plan.resources) ∧
    plan.jobs = plan.remote ++ plan.math ++ plan.resources ∧
    (plan.jobs.map Job.location).Nodup ∧
    (∀ job ∈ plan.jobs, ∃ r, IsFor e fontSize color r job ∧
      e.index.lookup job.location = some r ∧ SourceRange.parse job.location = .ok r) ∧
    (plan.total = plan.jobs.length ∧ plan.total = e.jobCount ∧ e.jobCount = e.index.size) ∧
    ∀ (registry : Registry) (d : DocumentId),
      (registry.slot? d).map DocumentSlot.index = some e.index →
      ∀ job ∈ plan.jobs, ∀ outcome, (registry.record d job.location outcome).1 = true := by
  intro plan
  have hwell := Extraction.wellFormed_of_convert h
  have hjob : ∀ job ∈ plan.jobs, ∃ r, IsFor e fontSize color r job ∧
      e.index.lookup job.location = some r ∧ SourceRange.parse job.location = .ok r := by
    intro job hmem
    obtain ⟨place, hplace, rfl⟩ := (mem_jobs_iff hwell).mp hmem
    refine ⟨place.1, jobOf_isFor hwell hplace, ?_, ?_⟩
    · rw [location_jobOf]
      exact hwell.lookup_of_mem hplace
    · rw [location_jobOf, SourceRange.parse_key]
  refine ⟨⟨covers_math, ?_, ?_⟩, rfl, nodup_locations hwell, hjob, ?_, ?_⟩
  · exact covers_images (fun _ _ _ => remoteJob?_eq_some_iff) fun _ _ _ => .remote
  · exact covers_images (fun _ _ _ => resourceJob?_eq_some_iff) fun _ _ _ => .resource
  · rw [total_eq, length_jobs hwell]
    exact ⟨rfl, rfl, hwell.size.symm⟩
  · intro registry d hindex job hmem outcome
    obtain ⟨slot, hslot, hsame⟩ := Option.map_eq_some_iff.mp hindex
    obtain ⟨r, -, hlookup, -⟩ := hjob job hmem
    rw [Registry.fst_record, hslot, Option.bind_some, hsame, hlookup]
    rfl

/-- A formula between two images, one of them at a web address. -/
def mixedFindings : Findings where
  blocks := [⟨⟨⟨2, 1⟩, ⟨4, 3⟩⟩, "x", .display⟩]
  pending := []
  images := [⟨⟨⟨6, 1⟩, ⟨6, 12⟩⟩, .resource "b.png"⟩,
    ⟨⟨⟨1, 1⟩, ⟨1, 30⟩⟩, .remote {
      secure := true, user := [], password := [], host := "example.com".toList, port := none
      path := ["a.png".toList], query := none, fragment := none }⟩]

/-- Three jobs are planned for them, the fetch first, and a registry keeps the outcome of each. -/
theorem ofExtraction_spec_mixed :
    ∃ e, mixedFindings.convert PlaceholderTable.empty = .ok e ∧
      (ofExtraction e default Color.black).jobs.map Job.location
        = ["1:1-1:30", "2:1-4:3", "6:1-6:12"] ∧
      (ofExtraction e default Color.black).total = 3 ∧
      ∀ job ∈ (ofExtraction e default Color.black).jobs, ∀ outcome,
        (((Registry.empty.register ⟨0⟩ e.index).2.record ⟨0⟩ job.location outcome).1 = true) := by
  obtain ⟨e, hconvert, hlocations⟩ : ∃ e, mixedFindings.convert PlaceholderTable.empty = .ok e ∧
      (ofExtraction e default Color.black).jobs.map Job.location
        = ["1:1-1:30", "2:1-4:3", "6:1-6:12"] := ⟨_, rfl, by decide +kernel⟩
  obtain ⟨-, -, -, -, ⟨htotal, -⟩, hkeeps⟩ := ofExtraction_spec hconvert default Color.black
  refine ⟨e, hconvert, hlocations, ?_, hkeeps _ _ ?_⟩
  · rw [htotal, ← List.length_map, hlocations]
    rfl
  · rw [Registry.slot?_register, if_pos rfl]
    rfl

end Plan
end Formulary.Render
