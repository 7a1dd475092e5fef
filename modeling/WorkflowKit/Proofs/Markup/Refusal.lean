/-
# Texts that reading does not break off at

Reading a text is meant to end with a workflow or with the faults of both formats, but some faults
break it off.  They are: integers and escapes out of bounds, YAML scalars that do not fit their
tags, extension ids that are collections, and properties that cannot be written.  A text without
these is read to the end (`exists_decode`), and so it is by a manager, which gives up for nothing
else but lack of room: for reading the text, or for resolving what it holds (`Codec.HasRoomFor`).
-/

import WorkflowKit.Manager
import WorkflowKit.Proofs.Decode.Id
import WorkflowKit.Proofs.Json.Fault
import WorkflowKit.Proofs.Template.Substitution
import WorkflowKit.Proofs.Yaml.Fits

namespace WorkflowKit
namespace Markup

/-- A text that a codec reads to the end. -/
structure Codec.Handles (c : Codec) (s : Text) : Prop where
  /-- Integers and escapes keep their bounds. -/
  bounded : Yaml.Bounded s.chars
  /-- The scalars of YAML fit their tags. -/
  fits : ∀ n, Yaml.IsTree s n → n.Fits
  /-- No extension record has a collection as its id. -/
  ids : ∀ format d es, document format s = .ok (.ok d) → d.unmarked = .map es →
    Decode.PlainIds es
  /-- The properties may be written. -/
  writable : ∀ r ∈ c.resolver, r.Writable

/-- A text that is not nested too deep for a codec. -/
structure Codec.HasRoomFor (c : Codec) (s : Text) : Prop where
  /-- The text can be read in either format. -/
  reading : ∀ format, nestingFault? format s = none
  /-- What is read can be resolved, if it has to be. -/
  resolving : ∀ r ∈ c.resolver, ∀ format d, document format s = .ok (.ok d) →
    d.FitsIn (some .initial)

variable {c : Codec} {s : Text} {format : Format} {room : Option Template.Room}

/-- The document of a text, if nothing breaks reading off. -/
theorem document_yields (hbounded : Yaml.Bounded s.chars)
    (hfits : ∀ n, Yaml.IsTree s n → n.Fits) :
    Yields (fun _ => False) (fun x => document format s = .ok x) (document format s) := by
  cases format with
  | json =>
    have hread := Json.read_yields hbounded.runs
    rw [document]
    cases hs : Json.read s with
    | ok v => rfl
    | error f =>
      obtain ⟨m, pos, rfl⟩ := hread.error_of hs
      rfl
  | yaml =>
    have hread := Yaml.read_yields hbounded hfits
    rw [document]
    cases hs : Yaml.read s with
    | ok d => rfl
    | error f =>
      obtain rfl := hread.error_of hs
      rfl

namespace Codec

/-- Resolving a document for which there is room results in a document with plain ids again, or in
an unknown key. -/
theorem resolveWithin_yields {es : List (Scalar × Doc)} {d : Doc} (hd : d.unmarked = .map es)
    (hids : Decode.PlainIds es) (hwritable : ∀ r ∈ c.resolver, r.Writable)
    (hroom : ∀ r ∈ c.resolver, d.FitsIn room) :
    Yields (fun _ => False)
      (fun x => ∀ e, x = .ok e → ∀ fs, e.unmarked = .map fs → Decode.PlainIds fs)
      (c.resolveWithin room d) := by
  unfold resolveWithin
  split
  · rintro _ ⟨⟩ fs hfs
    rw [hd] at hfs
    cases hfs
    exact hids
  · next r hr =>
    cases he : r.resolveDoc room d with
    | ok e =>
      rintro _ ⟨⟩ fs hfs
      rw [(Template.Resolver.of_resolveDoc_eq_ok he).1] at hfs
      obtain ⟨es', hes', hkeys, hvalues⟩ := Decode.sameShape_map (d.sameShape_mapTexts _) hfs
      rw [hd] at hes'
      cases hes'
      exact hids.of_sameShape hkeys hvalues
    | error f =>
      obtain ⟨⟨t, p, rfl⟩, -⟩ := Template.Resolver.exists_unknown_of_error (hroom r hr)
        ((hwritable r hr).writes d) he
      rintro _ ⟨⟩

/-- A document with plain ids is a workflow, or has faults. -/
theorem ofDocumentWithin_yields {d : Doc}
    (hids : ∀ es, d.unmarked = .map es → Decode.PlainIds es)
    (hwritable : ∀ r ∈ c.resolver, r.Writable) (hroom : ∀ r ∈ c.resolver, d.FitsIn room) :
    Yields (fun _ => False) (fun _ => True) (c.ofDocumentWithin room d) := by
  unfold ofDocumentWithin
  split
  · next es hes =>
    refine (resolveWithin_yields hes (hids es hes) hwritable hroom).bind fun x hx => ?_
    split
    · trivial
    · next e =>
      have hworkflow := Decode.workflow_yields (r := some c.extensions) (hx e rfl)
      cases hw : Decode.workflow (some c.extensions) e with
      | ok w => trivial
      | error f =>
        obtain ⟨fs, rfl⟩ := hworkflow.error_of hw
        trivial
  · trivial

/-- What a text is read into in one of the formats is a workflow, or has faults, if there is room to
resolve it. -/
theorem Handles.ofDocumentWithin (h : c.Handles s) {d : Doc}
    (hd : document format s = .ok (.ok d)) (hroom : ∀ r ∈ c.resolver, d.FitsIn room) :
    Yields (fun _ => False) (fun _ => True) (c.ofDocumentWithin room d) :=
  ofDocumentWithin_yields (fun es hes => h.ids format d es hd hes) h.writable hroom

/-- An attempt in one of the formats comes to an end: with a workflow, or with its faults. -/
theorem Handles.attempt (h : c.Handles s) :
    Yields (fun _ => False) (fun _ => True) (c.attempt format s) := by
  refine (document_yields h.bounded h.fits).bind fun x hx => ?_
  split
  · trivial
  · next d => exact h.ofDocumentWithin hx fun _ _ => d.fitsIn_none

/-- So does an attempt with bounded room, if there is enough of it. -/
theorem Handles.attemptBounded (h : c.Handles s) (hroom : c.HasRoomFor s) :
    Yields (fun _ => False) (fun _ => True) (c.attemptBounded format s) := by
  rw [Codec.attemptBounded, documentBounded, hroom.reading format]
  refine (document_yields h.bounded h.fits).bind fun x hx => ?_
  split
  · trivial
  · next d => exact h.ofDocumentWithin hx fun r hr => hroom.resolving r hr format d hx

/-- Both attempts come to an end, so decoding does. -/
theorem Handles.decode (h : c.Handles s) :
    Yields (fun _ => False) (fun _ => True) (c.decode s) := by
  refine h.attempt.bind fun x _ => ?_
  split
  · trivial
  · refine h.attempt.bind fun y _ => ?_
    split <;> trivial

/-- So does decoding with bounded room, if there is enough of it for each of the formats. -/
theorem Handles.decodeBounded (h : c.Handles s) (hroom : c.HasRoomFor s) :
    Yields (fun _ => False) (fun _ => True) (c.decodeBounded s) := by
  refine (h.attemptBounded hroom).bind fun x _ => ?_
  split
  · trivial
  · refine (h.attemptBounded hroom).bind fun y _ => ?_
    split <;> trivial

end Codec

/-- **Reading ends with a workflow or with the faults of both formats** unless the text holds one of
the things that break it off, and a manager that has room for the text reads and loads it, or
refuses it for these faults. -/
theorem exists_decode (h : c.Handles s) :
    (∃ r, c.decode s = .ok r) ∧
      ∀ m : Manager, m.codec = c → c.HasRoomFor s →
        (∀ f, m.read s = .error f → ∃ fs, f = .refused fs) ∧
          ∀ f, m.perform (.load s) = .error f → ∃ fs, f = .refused fs := by
  obtain ⟨r, hr, -⟩ := h.decode.exists_ok
  refine ⟨⟨r, hr⟩, fun m hm hroom => ?_⟩
  obtain ⟨r, hr, -⟩ := (h.decodeBounded hroom).exists_ok
  have hread : ∀ f, m.read s = .error f → ∃ fs, f = .refused fs := by
    intro f hf
    rw [Manager.read, hm, hr] at hf
    cases r with
    | ok w => cases hf
    | error fs =>
      cases hf
      exact ⟨fs, rfl⟩
  refine ⟨hread, fun f hf => ?_⟩
  rw [Manager.perform] at hf
  cases hs : m.read s with
  | ok w =>
    rw [hs] at hf
    cases hf
  | error g =>
    rw [hs] at hf
    cases hf
    exact hread _ hs

/-- Whether a document is a mapping without extensions. -/
def lacksExtensions : Doc → Bool
  | .map es => (Doc.field? "extensions" es).isNone
  | _ => false

/-- A YAML text with a date. -/
def leapDayText : Text := ↑"name: order\nversion: 2024-02-29\n"

/-- A text with a day that is there in leap years only is read to the end, for the day is a date of
the calendar. -/
theorem exists_decode_leapDay :
    (∃ r, (⟨.empty, none⟩ : Codec).decode leapDayText = .ok r) ∧
      ∀ m : Manager, m.codec = ⟨.empty, none⟩ →
        (∀ f, m.read leapDayText = .error f → ∃ fs, f = .refused fs) ∧
          ∀ f, m.perform (.load leapDayText) = .error f → ∃ fs, f = .refused fs := by
  have hroom : (⟨.empty, none⟩ : Codec).HasRoomFor leapDayText := {
    reading := fun format => by cases format <;> decide +kernel
    resolving := fun _ hr => nomatch hr }
  have hfits : (Yaml.Node.ofTokens? (Yaml.tokens leapDayText.chars).1
      (Yaml.tokens leapDayText.chars).2).toOption.join.all Yaml.Node.fits = true := by
    decide +kernel
  have hids (format : Format) :
      ((document format leapDayText).toOption.bind Except.toOption).all
        (fun d => lacksExtensions d.unmarked) = true := by
    cases format <;> decide +kernel
  refine (exists_decode ⟨⟨fun ds hds _ => ?_, fun ds hds => ?_⟩, ?_, ?_, ?_⟩).imp_right
    fun h m hm => h m hm hroom
  · exact Nat.le_trans hds.length_le (by decide)
  · exact absurd (hds.subset List.mem_cons_self) (by decide)
  · rintro n ⟨cs, hcs, hn⟩
    obtain rfl : leapDayText.chars = cs := Option.some.inj hcs
    rw [hn] at hfits
    exact .of_fits n hfits
  · intro format d es hd hes x hx
    have hnone := hids format
    rw [hd] at hnone
    have hlacks : lacksExtensions d.unmarked = true := hnone
    rw [hes, lacksExtensions, Option.mem_def.1 hx] at hlacks
    cases hlacks
  · rintro _ ⟨⟩

/-- A text with a month that is no month. -/
def noMonthText : Text := ↑"starts-at: 2024-13-01"

/-- Reading may be broken off: a date in the month 13 is neither a workflow nor a fault of one of
the formats. -/
theorem not_forall_exists_decode :
    ¬ ∀ (c : Codec) (s : Text), ∃ r, c.decode s = .ok r := by
  intro h
  obtain ⟨r, hr⟩ := h ⟨.empty, none⟩ noMonthText
  have hfault : ((⟨.empty, none⟩ : Codec).decode noMonthText).toOption.isNone = true := by
    decide +kernel
  rw [hr] at hfault
  cases hfault

end Markup
end WorkflowKit
