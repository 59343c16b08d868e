import HostAgent.Proofs.Json.RoundTrip
import HostAgent.Settings.Reader

/-!
# What settings need not say

Settings are read back from the record of all their members, and as well from a record that leaves
out members that have their standard values.  What is standard is said twice, for a member that is
missing in its section and for a section that is missing as a whole; both say the same.

* `Gives` — a record gives members, in any order and without some that are standard.
* `GivenBy` — a record gives settings.
* `Fits` — the numbers of settings fit their registers.
* `Gives.read` — a member is read from what is given, whether it is left out or not.
* `read_back` — settings are read back from every record that gives them, if their numbers fit.
-/

namespace HostAgent

namespace Datum

variable {ms : List (String × Datum)} {k : String} {v : Datum}

/-- Of different names each has the value that it is given. -/
lemma get?_of_mem (hms : (ms.map Prod.fst).Nodup) (h : (k, v) ∈ ms) :
    (record ms).get? k = some v := by
  obtain ⟨before, behind, heq⟩ := List.append_of_mem (List.mem_reverse.mpr h)
  have hnodup : (ms.reverse.map Prod.fst).Nodup := by
    rw [List.map_reverse]
    exact List.nodup_reverse.mpr hms
  rw [get?, List.lookup_eq_some_iff]
  refine ⟨before, behind, heq, ?_⟩
  intro m hm
  rw [heq, List.map_append, List.map_cons] at hnodup
  have hne := (List.nodup_append.mp hnodup).2.2 m.1 (List.mem_map_of_mem hm) k
    List.mem_cons_self
  simpa using hne.symm

/-- A name that is not there has no value. -/
lemma get?_of_forall_ne (h : ∀ m ∈ ms, m.1 ≠ k) : (record ms).get? k = none := by
  rw [get?, List.lookup_eq_none_iff]
  intro m hm
  simpa using (h m (List.mem_reverse.mp hm)).symm

end Datum

namespace Settings

variable {standard ms given : List (String × Datum)} {k : String} {v : Datum} {how : Strictness}

/-! ## Giving members -/

/-- **What is given of members**: each at most once, in any order, and those that are left out are
standard. -/
structure Gives (standard ms given : List (String × Datum)) : Prop where
  nodup : (given.map Prod.fst).Nodup
  subset : ∀ m ∈ given, m ∈ ms
  omitted : ∀ m ∈ ms, m ∈ given ∨ m ∈ standard

/-- All members give themselves. -/
lemma Gives.refl (standard : List (String × Datum)) (h : (ms.map Prod.fst).Nodup) :
    Gives standard ms ms where
  nodup := h
  subset _ hm := hm
  omitted _ hm := .inl hm

namespace Gives

/-- A member is found as it is, or it is standard and left out. -/
lemma get? (h : Gives standard ms given) (hms : (ms.map Prod.fst).Nodup) (hm : (k, v) ∈ ms) :
    (Datum.record given).get? k = some v ∨
      (Datum.record given).get? k = none ∧ (k, v) ∈ standard := by
  by_cases hgiven : (k, v) ∈ given
  · exact .inl (Datum.get?_of_mem h.nodup hgiven)
  · refine .inr ⟨Datum.get?_of_forall_ne ?_, (h.omitted _ hm).resolve_left hgiven⟩
    rintro m hmem rfl
    -- whatever is given under this name would be this member, since names are different
    have heq := List.inj_on_of_nodup_map hms (h.subset m hmem) hm rfl
    exact hgiven (heq ▸ hmem)

/-- A member that is not standard is found. -/
lemma get?_eq_some (h : Gives standard ms given) (hms : (ms.map Prod.fst).Nodup)
    (hm : (k, v) ∈ ms) (hstandard : (k, v) ∉ standard) :
    (Datum.record given).get? k = some v :=
  (h.get? hms hm).resolve_right fun hnone => hstandard hnone.2

/-- **A member is read from what is given**, if it is what the reader takes it for where it is left
out. -/
lemma read {α : Type} {x x₀ : α} {read? : Datum → Option α} (h : Gives standard ms given)
    (hms : (ms.map Prod.fst).Nodup) (hm : (k, v) ∈ ms) (hread : read? v = some x)
    (hstandard : (k, v) ∈ standard → x = x₀) :
    orElse? x₀ read? ((Datum.record given).get? k) = some x := by
  rcases h.get? hms hm with hsome | ⟨hnone, hmem⟩
  · rw [hsome]
    exact hread
  · rw [hnone, hstandard hmem]
    rfl

end Gives

/-! ## Giving settings -/

/-- The members of the server. -/
def Server.members (s : Server) : List (String × Datum) :=
  [("url", .text s.url), ("id", .text s.id), ("key", .text s.key),
    ("ca_certificate", .optText s.certificate), ("verify_certificate", .bool s.verify)]

/-- The members of the delivery. -/
def Delivery.members (d : Delivery) : List (String × Datum) :=
  [("workers", number d.workers), ("request_timeout_secs", number d.timeoutSeconds),
    ("retry_limit", number d.retryLimit), ("queue_capacity", number d.capacity),
    ("stats_interval_secs", number d.statsSeconds)]

/-- The members of the control channel. -/
def Control.members (c : Control) : List (String × Datum) :=
  [("backhaul_path", .text c.path), ("reconnect_initial_secs", number c.initialSeconds),
    ("reconnect_max_secs", number c.ceilingSeconds),
    ("command_timeout_secs", number c.commandSeconds)]

/-- The members of the server that have standard values.  Address and credentials have none. -/
def Server.standardMembers : List (String × Datum) :=
  [("ca_certificate", .null), ("verify_certificate", .bool true)]

/-- The sections of settings, of which these members are given. -/
def sections (server delivery control : List (String × Datum)) : List (String × Datum) :=
  [("server", .record server), ("delivery", .record delivery), ("control", .record control)]

/-- The sections that can be left out: those of which no member is given. -/
def emptySections : List (String × Datum) :=
  [("delivery", .record []), ("control", .record [])]

/-- **A record gives settings**: it gives their sections, and each of them gives its members. -/
inductive GivenBy (s : Settings) : Datum → Prop
  | intro {server delivery control whole : List (String × Datum)}
      (hserver : Gives Server.standardMembers s.server.members server)
      (hdelivery : Gives ({} : Delivery).members s.delivery.members delivery)
      (hcontrol : Gives ({} : Control).members s.control.members control)
      (hwhole : Gives emptySections (sections server delivery control) whole) :
      GivenBy s (.record whole)

lemma nodup_server (s : Server) : (s.members.map Prod.fst).Nodup := by
  simp [Server.members]

lemma nodup_delivery (d : Delivery) : (d.members.map Prod.fst).Nodup := by
  simp [Delivery.members]

lemma nodup_control (c : Control) : (c.members.map Prod.fst).Nodup := by
  simp [Control.members]

lemma nodup_sections (server delivery control : List (String × Datum)) :
    ((sections server delivery control).map Prod.fst).Nodup := by
  simp [sections]

/-- The record of all members gives the settings. -/
lemma givenBy_datum (s : Settings) : s.GivenBy s.datum :=
  .intro (.refl _ (nodup_server _)) (.refl _ (nodup_delivery _)) (.refl _ (nodup_control _))
    (.refl _ (nodup_sections _ _ _))

/-! ## Numbers -/

/-- The numbers of the delivery fit their registers. -/
structure Delivery.Fits (d : Delivery) : Prop where
  workers : d.workers < Word.size64
  timeoutSeconds : d.timeoutSeconds < Word.size64
  retryLimit : d.retryLimit < Word.size32
  capacity : d.capacity < Word.size64
  statsSeconds : d.statsSeconds < Word.size64

/-- The numbers of the control channel fit their registers. -/
structure Control.Fits (c : Control) : Prop where
  initialSeconds : c.initialSeconds < Word.size64
  ceilingSeconds : c.ceilingSeconds < Word.size64
  commandSeconds : c.commandSeconds < Word.size64

/-- The numbers of settings fit their registers. -/
structure Fits (s : Settings) : Prop where
  delivery : s.delivery.Fits
  control : s.control.Fits

@[simp] lemma number_inj {m n : ℕ} : number m = number n ↔ m = n := by
  simp [number]

lemma natBelow?_number {n bound : ℕ} (h : n < bound) : natBelow? bound (number n) = some n :=
  if_pos h

lemma natBelow?_lt {n bound : ℕ} (h : natBelow? bound v = some n) : n < bound := by
  unfold natBelow? at h
  split at h
  · split_ifs at h with hlt
    cases h
    exact hlt
  · cases h

/-- What holds of all that can be read and of what is standard holds of a member. -/
lemma orElse?_induction {α : Type} {P : α → Prop} {x x₀ : α} {read? : Datum → Option α}
    {field : Option Datum} (h : orElse? x₀ read? field = some x) (hstandard : P x₀)
    (hread : ∀ v, read? v = some x → P x) : P x := by
  cases field with
  | none =>
      cases h
      exact hstandard
  | some v => exact hread v h

namespace Gives

/-- A number is read from what is given. -/
lemma readNumber {n n₀ bound : ℕ} (h : Gives standard ms given) (hms : (ms.map Prod.fst).Nodup)
    (hm : (k, number n) ∈ ms) (hlt : n < bound) (hstandard : (k, number n) ∈ standard → n = n₀) :
    orElse? n₀ (natBelow? bound) ((Datum.record given).get? k) = some n :=
  h.read hms hm (natBelow?_number hlt) hstandard

end Gives

/-! ## Reading the sections -/

/-- The server is read from what is given of it. -/
lemma ofDatum?_server {s : Server} (h : Gives Server.standardMembers s.members given) :
    Server.ofDatum? how (.record given) = some s := by
  have hms := nodup_server s
  have hurl : (Datum.record given).get? "url" = some (.text s.url) :=
    h.get?_eq_some hms (by simp [Server.members]) (by simp [Server.standardMembers])
  have hid : (Datum.record given).get? "id" = some (.text s.id) :=
    h.get?_eq_some hms (by simp [Server.members]) (by simp [Server.standardMembers])
  have hkey : (Datum.record given).get? "key" = some (.text s.key) :=
    h.get?_eq_some hms (by simp [Server.members]) (by simp [Server.standardMembers])
  have hcertificate : orElse? none textOrNull? ((Datum.record given).get? "ca_certificate") =
      some s.certificate := by
    refine h.read hms (v := .optText s.certificate) (by simp [Server.members]) ?_ ?_
    · cases s.certificate <;> rfl
    · cases s.certificate <;> simp [Server.standardMembers, Datum.optText]
  have hverify : orElse? true Datum.bool? ((Datum.record given).get? "verify_certificate") =
      some s.verify :=
    h.read hms (v := .bool s.verify) (by simp [Server.members]) rfl
      (by simp [Server.standardMembers])
  simp only [Server.ofDatum?, fields?, serverNames, List.map_cons, List.map_nil, hurl, hid, hkey,
    hcertificate, hverify, Datum.text?, Option.bind_eq_bind, Option.bind_some, Option.pure_def]

/-- The delivery is read from what is given of it. -/
lemma ofDatum?_delivery {d : Delivery} (hfits : d.Fits)
    (h : Gives ({} : Delivery).members d.members given) :
    Delivery.ofDatum? how (.record given) = some d := by
  have hms := nodup_delivery d
  have hworkers : orElse? 4 (natBelow? Word.size64) ((Datum.record given).get? "workers") =
      some d.workers :=
    h.readNumber hms (by simp [Delivery.members]) hfits.workers (by simp [Delivery.members])
  have htimeout : orElse? 5 (natBelow? Word.size64)
      ((Datum.record given).get? "request_timeout_secs") = some d.timeoutSeconds :=
    h.readNumber hms (by simp [Delivery.members]) hfits.timeoutSeconds
      (by simp [Delivery.members])
  have hretries : orElse? 5 (natBelow? Word.size32) ((Datum.record given).get? "retry_limit") =
      some d.retryLimit :=
    h.readNumber hms (by simp [Delivery.members]) hfits.retryLimit (by simp [Delivery.members])
  have hcapacity : orElse? 36000 (natBelow? Word.size64)
      ((Datum.record given).get? "queue_capacity") = some d.capacity :=
    h.readNumber hms (by simp [Delivery.members]) hfits.capacity (by simp [Delivery.members])
  have hstats : orElse? 60 (natBelow? Word.size64)
      ((Datum.record given).get? "stats_interval_secs") = some d.statsSeconds :=
    h.readNumber hms (by simp [Delivery.members]) hfits.statsSeconds (by simp [Delivery.members])
  simp only [Delivery.ofDatum?, fields?, deliveryNames, List.map_cons, List.map_nil, hworkers,
    htimeout, hretries, hcapacity, hstats, Option.bind_eq_bind, Option.bind_some,
    Option.pure_def]

/-- The control channel is read from what is given of it. -/
lemma ofDatum?_control {c : Control} (hfits : c.Fits)
    (h : Gives ({} : Control).members c.members given) :
    Control.ofDatum? how (.record given) = some c := by
  have hms := nodup_control c
  have hpath : orElse? "/ws/servers/backhaul/" Datum.text?
      ((Datum.record given).get? "backhaul_path") = some c.path :=
    h.read hms (v := .text c.path) (by simp [Control.members]) rfl (by simp [Control.members])
  have hinitial : orElse? 5 (natBelow? Word.size64)
      ((Datum.record given).get? "reconnect_initial_secs") = some c.initialSeconds :=
    h.readNumber hms (by simp [Control.members]) hfits.initialSeconds (by simp [Control.members])
  have hceiling : orElse? 60 (natBelow? Word.size64)
      ((Datum.record given).get? "reconnect_max_secs") = some c.ceilingSeconds :=
    h.readNumber hms (by simp [Control.members]) hfits.ceilingSeconds (by simp [Control.members])
  have hcommand : orElse? 600 (natBelow? Word.size64)
      ((Datum.record given).get? "command_timeout_secs") = some c.commandSeconds :=
    h.readNumber hms (by simp [Control.members]) hfits.commandSeconds (by simp [Control.members])
  simp only [Control.ofDatum?, fields?, controlNames, List.map_cons, List.map_nil, hpath, hinitial,
    hceiling, hcommand, Option.bind_eq_bind, Option.bind_some, Option.pure_def]

/-- A section of which nothing is given is read as a section that is not there. -/
lemma ofDatum?_nil (how : Strictness) :
    Delivery.ofDatum? how (.record []) = some {} ∧ Control.ofDatum? how (.record []) = some {} :=
  ⟨rfl, rfl⟩

/-- **Settings are read from every record that gives them.** -/
lemma ofDatum?_givenBy {s : Settings} {d : Datum} (hfits : s.Fits) (h : s.GivenBy d) :
    ofDatum? how d = some s := by
  cases h with
  | @intro server delivery control whole hserver hdelivery hcontrol hwhole =>
      have hms := nodup_sections server delivery control
      have hthere : (Datum.record whole).get? "server" = some (.record server) :=
        hwhole.get?_eq_some hms (by simp [sections]) (by simp [emptySections])
      have hreadDelivery : Delivery.ofDatum? how (.record delivery) = some s.delivery :=
        ofDatum?_delivery hfits.delivery hdelivery
      have hreadControl : Control.ofDatum? how (.record control) = some s.control :=
        ofDatum?_control hfits.control hcontrol
      have hdelivery' : orElse? {} (Delivery.ofDatum? how)
          ((Datum.record whole).get? "delivery") = some s.delivery := by
        refine hwhole.read hms (v := .record delivery) (by simp [sections]) hreadDelivery ?_
        -- nothing is given of a section that is left out, so what is read of it is standard
        intro hmem
        obtain rfl : delivery = [] := by simpa [emptySections] using hmem
        exact Option.some.inj (hreadDelivery.symm.trans (ofDatum?_nil how).1)
      have hcontrol' : orElse? {} (Control.ofDatum? how)
          ((Datum.record whole).get? "control") = some s.control := by
        refine hwhole.read hms (v := .record control) (by simp [sections]) hreadControl ?_
        intro hmem
        obtain rfl : control = [] := by simpa [emptySections] using hmem
        exact Option.some.inj (hreadControl.symm.trans (ofDatum?_nil how).2)
      simp only [ofDatum?, fields?, List.map_cons, List.map_nil, hthere, ofDatum?_server hserver,
        hdelivery', hcontrol', Option.bind_eq_bind, Option.bind_some, Option.pure_def]

/-! ## What is read fits -/

lemma orElse?_lt {n n₀ bound : ℕ} {field : Option Datum} (hn : n₀ < bound)
    (h : orElse? n₀ (natBelow? bound) field = some n) : n < bound :=
  orElse?_induction (P := (· < bound)) h hn fun _ => natBelow?_lt

lemma fits_delivery {d : Delivery} (h : Delivery.ofDatum? how v = some d) : d.Fits := by
  simp only [Delivery.ofDatum?, Option.bind_eq_bind, Option.bind_eq_some_iff] at h
  obtain ⟨fields, -, h⟩ := h
  split at h
  · simp only [Option.bind_eq_some_iff, Option.pure_def] at h
    obtain ⟨workers, hworkers, timeout, htimeout, retries, hretries, capacity, hcapacity, stats,
      hstats, hd⟩ := h
    cases hd
    exact ⟨orElse?_lt (by decide) hworkers, orElse?_lt (by decide) htimeout,
      orElse?_lt (by decide) hretries, orElse?_lt (by decide) hcapacity,
      orElse?_lt (by decide) hstats⟩
  · cases h

lemma fits_control {c : Control} (h : Control.ofDatum? how v = some c) : c.Fits := by
  simp only [Control.ofDatum?, Option.bind_eq_bind, Option.bind_eq_some_iff] at h
  obtain ⟨fields, -, h⟩ := h
  split at h
  · simp only [Option.bind_eq_some_iff, Option.pure_def] at h
    obtain ⟨path, -, initial, hinitial, ceiling, hceiling, command, hcommand, hc⟩ := h
    cases hc
    exact ⟨orElse?_lt (by decide) hinitial, orElse?_lt (by decide) hceiling,
      orElse?_lt (by decide) hcommand⟩
  · cases h

/-- **The numbers of settings that are read fit their registers.** -/
theorem fits_of_ofDatum? {s : Settings} (h : ofDatum? how v = some s) : s.Fits := by
  simp only [ofDatum?, Option.bind_eq_bind, Option.bind_eq_some_iff] at h
  obtain ⟨fields, -, h⟩ := h
  split at h
  · simp only [Option.bind_eq_some_iff, Option.pure_def] at h
    obtain ⟨server, -, delivery, hdelivery, control, hcontrol, hs⟩ := h
    cases hs
    have hstandard : Delivery.Fits {} ∧ Control.Fits {} :=
      ⟨fits_delivery (ofDatum?_nil how).1, fits_control (ofDatum?_nil how).2⟩
    exact ⟨orElse?_induction hdelivery hstandard.1 fun _ => fits_delivery,
      orElse?_induction hcontrol hstandard.2 fun _ => fits_control⟩
  · cases h

/-! ## Reading back -/

open Json (Plain PlainMembers)

lemma plainMembers_iff : PlainMembers ms ↔ ∀ m ∈ ms, Plain m.2 := by
  induction ms with
  | nil => simp [PlainMembers]
  | cons m ms ih =>
      obtain ⟨k, v⟩ := m
      simp [PlainMembers, ih]

/-- What is given of plain members is plain. -/
lemma Gives.plain (h : Gives standard ms given) (hms : PlainMembers ms) : PlainMembers given := by
  rw [plainMembers_iff] at hms ⊢
  intro m hm
  exact hms m (h.subset m hm)

lemma plain_number {n : ℕ} (h : n < Word.size64) : Plain (number n) := by
  unfold Word.size64 at h
  simp only [number, Plain, Word.half64, Word.size64]
  omega

lemma plain_server (s : Server) : PlainMembers s.members := by
  refine ⟨trivial, trivial, trivial, ?_, trivial, trivial⟩
  cases s.certificate with
  | none => trivial
  | some path => trivial

lemma plain_delivery {d : Delivery} (h : d.Fits) : PlainMembers d.members := by
  have hretries : d.retryLimit < Word.size64 := h.retryLimit.trans (by decide)
  exact ⟨plain_number h.workers, plain_number h.timeoutSeconds, plain_number hretries,
    plain_number h.capacity, plain_number h.statsSeconds, trivial⟩

lemma plain_control {c : Control} (h : c.Fits) : PlainMembers c.members :=
  ⟨trivial, plain_number h.initialSeconds, plain_number h.ceilingSeconds,
    plain_number h.commandSeconds, trivial⟩

/-- A record that gives settings whose numbers fit can be written and read. -/
lemma plain_givenBy {s : Settings} {d : Datum} (hfits : s.Fits) (h : s.GivenBy d) : Plain d := by
  cases h with
  | intro hserver hdelivery hcontrol hwhole =>
      exact hwhole.plain ⟨hserver.plain (plain_server _),
        hdelivery.plain (plain_delivery hfits.delivery),
        hcontrol.plain (plain_control hfits.control), trivial⟩

/-- Settings are read back from the text of a record that gives them exactly if they fit. -/
lemma parse?_givenBy {s : Settings} {d : Datum} (h : s.GivenBy d) :
    (Json.parse? (Json.render d)).bind (ofDatum? how) = some s ↔ s.Fits := by
  constructor
  · intro hread
    obtain ⟨d', -, hd'⟩ := Option.bind_eq_some_iff.mp hread
    exact fits_of_ofDatum? hd'
  · intro hfits
    rw [Json.parse?_render d (plain_givenBy hfits h), Option.bind_some, ofDatum?_givenBy hfits h]

/-- **Settings are read back** from the text of all their members exactly if their numbers fit their
registers, and the same holds of what is left when any members that have their standard values are
left out: in any order, and with or without the sections of which nothing is left. -/
theorem read_back (s : Settings) (how : Strictness) :
    ((Json.parse? (Json.render s.datum)).bind (ofDatum? how) = some s ↔ s.Fits) ∧
      ∀ d, s.GivenBy d → ((Json.parse? (Json.render d)).bind (ofDatum? how) = some s ↔ s.Fits) :=
  ⟨parse?_givenBy (givenBy_datum s), fun _ => parse?_givenBy⟩

/-- A server that is not verified, as many couriers as can be, nothing about the control channel:
what is standard is left out, and the rest stands in another order. -/
theorem read_back_sparse :
    let s : Settings :=
      { server := { url := "http://[::1]", id := "a", key := "b", verify := false }
        delivery := { workers := 18446744073709551615 } }
    let d : Datum := .record
      [("delivery", .record [("workers", number 18446744073709551615)]),
        ("server", .record
          [("verify_certificate", .bool false), ("key", .text "b"), ("id", .text "a"),
            ("url", .text "http://[::1]")])]
    s.GivenBy d ∧ (Json.parse? (Json.render d)).bind (ofDatum? .exact) = some s := by
  intro s d
  have hserver : Gives Server.standardMembers s.server.members
      [("verify_certificate", .bool false), ("key", .text "b"), ("id", .text "a"),
        ("url", .text "http://[::1]")] :=
    ⟨by simp, by simp [s, Server.members],
      by simp [s, Server.members, Server.standardMembers, Datum.optText]⟩
  have hdelivery : Gives ({} : Delivery).members s.delivery.members
      [("workers", number 18446744073709551615)] :=
    ⟨by simp, by simp [s, Delivery.members], by simp [s, Delivery.members]⟩
  have hcontrol : Gives ({} : Control).members s.control.members [] :=
    ⟨by simp, by simp, fun m hm => .inr hm⟩
  have hgiven : s.GivenBy d :=
    .intro hserver hdelivery hcontrol
      ⟨by simp, by simp [sections], by simp [sections, emptySections]⟩
  exact ⟨hgiven, ((read_back s .exact).2 d hgiven).mpr
    ⟨⟨by decide, by decide, by decide, by decide, by decide⟩, ⟨by decide, by decide, by decide⟩⟩⟩

end Settings

end HostAgent
