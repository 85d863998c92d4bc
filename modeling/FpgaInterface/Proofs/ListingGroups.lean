import FpgaInterface.Proofs.Canonicity

/-!
# Listings lose nothing

A listing groups the elements of a description by their kinds. What it shows are texts and numbers,
from which the description can be made again.

* `Dump`, `Listing.dump` : a listing as texts and numbers under the names of the kinds. Dumps with
  the same items are the same, in whatever order the items are (`Dump.Same`);
* `Dump.rows`, `Dump.description?` : the elements of a dump, and the description made from it;
* `Listing.Partitions` : each element stands in one group, and the groups follow the order of the
  kinds. The order of locations goes by kinds first, so the groups in order are the elements in
  order (`flatMap_groups`);
* `listing_lossless` : a description is made again from its dump, which no other description has.
-/

namespace FpgaInterface

/-! ## Dumps -/

/-- What a listing shows of an element. -/
structure Row where
  name : String
  datatype : String
  address : Nat
  deriving DecidableEq

def Row.ofEntry (e : Entry) : Row := ⟨e.1.name, e.1.datatype, e.2.toNat⟩

/-- The element that a row shows in the group of a kind. -/
def Row.under (kind : Kind) (r : Row) : Location × Int := (⟨kind, r.name, r.datatype⟩, r.address)

/-- A listing as texts and numbers. -/
structure Dump where
  /-- The name of the interface, if it is shown. -/
  interface : Option String
  signature : String
  /-- The rows of each group, under the name of its kind. -/
  elements : List (String × List Row)
  deriving DecidableEq

def Listing.dump (l : Listing) : Dump where
  interface := l.interface
  signature := l.signature
  elements := l.groups.map fun g => (g.kind.name, g.entries.map Row.ofEntry)

namespace Dump

/-- The same items, in whatever order they are. -/
structure Same (d d' : Dump) : Prop where
  interface : d.interface = d'.interface
  signature : d.signature = d'.signature
  elements : ∀ item, item ∈ d.elements ↔ item ∈ d'.elements

/-- The elements of the groups in order. -/
def rows (d : Dump) : List (Location × Int) :=
  d.elements.flatMap fun (name, rows) =>
    (Kind.ofName? name).toList.flatMap fun kind => rows.map (Row.under kind)

def description? (d : Dump) : Option Description :=
  (AddressSet.ofRows d.rows).toOption.map fun registers => ⟨d.signature, registers⟩

end Dump

def AddressSet.rows (s : AddressSet) : List (Location × Int) :=
  s.entries.map fun e => (e.1, (e.2.toNat : Int))

/-! ## Groups -/

/-- The groups of a listing are the parts of a set by the kinds of its entries. -/
structure Listing.Partitions (l : Listing) (s : AddressSet) : Prop where
  /-- The kinds of the groups are in declaration order, and none comes twice. -/
  kinds : (l.groups.map Group.kind).Sublist Kind.all
  nonempty : ∀ g ∈ l.groups, g.entries ≠ []
  /-- A group holds entries of its kind alone. -/
  own : ∀ g ∈ l.groups, ∀ e ∈ g.entries, e ∈ s.entries ∧ e.1.kind = g.kind
  placed : ∀ e ∈ s.entries, ∃! g, g ∈ l.groups ∧ e ∈ g.entries
  /-- The groups in order are the entries in order. -/
  joined : l.groups.flatMap Group.entries = s.entries

theorem Kind.pairwise_all : Kind.all.Pairwise fun a b => a.order < b.order := by decide

theorem Kind.name_injective {k k' : Kind} (h : k.name = k'.name) : k = k' := by
  have hof := Kind.ofName?_name k
  rw [h, Kind.ofName?_name] at hof
  exact (Option.some.inj hof).symm

theorem Row.ofEntry_injective {e e' : Entry} (hrow : Row.ofEntry e = Row.ofEntry e')
    (hkind : e.1.kind = e'.1.kind) : e = e' := by
  obtain ⟨⟨kind, name, datatype⟩, w⟩ := e
  obtain ⟨⟨kind', name', datatype'⟩, w'⟩ := e'
  obtain ⟨hname, hdatatype, hword⟩ := Row.mk.inj hrow
  simp only at hkind hname hdatatype hword
  rw [hkind, hname, hdatatype, UInt32.toNat_inj.1 hword]

namespace Description

variable {d d' : Description} {interface interface' : Option String} {g : Group} {e : Entry}

theorem mem_group {s : AddressSet} {kind : Kind} :
    e ∈ (s.group kind).entries ↔ e ∈ s.entries ∧ e.1.kind = kind := by
  simp [AddressSet.group, AddressSet.ofKinds]

theorem mem_groups :
    g ∈ (d.listing interface).groups ↔ g = d.registers.group g.kind ∧ g.entries ≠ [] := by
  simp only [listing, List.mem_filter, List.mem_map, Bool.not_eq_true', List.isEmpty_eq_false_iff]
  refine and_congr_left fun _ => ⟨?_, fun h => ⟨g.kind, Kind.mem_all _, h.symm⟩⟩
  rintro ⟨kind, -, rfl⟩
  rfl

theorem mem_entries_of_mem_groups (hg : g ∈ (d.listing interface).groups) :
    e ∈ g.entries ↔ e ∈ d.registers.entries ∧ e.1.kind = g.kind := by
  rw [(mem_groups.1 hg).1]
  exact mem_group

/-- The group of an entry is that of its kind. -/
theorem group_mem_groups (he : e ∈ d.registers.entries) :
    d.registers.group e.1.kind ∈ (d.listing interface).groups := by
  have hmem : e ∈ (d.registers.group e.1.kind).entries := mem_group.2 ⟨he, rfl⟩
  exact mem_groups.2 ⟨rfl, List.ne_nil_of_mem hmem⟩

theorem map_kind_groups :
    ((d.listing interface).groups.map Group.kind).Sublist Kind.all := by
  have hall : (Kind.all.map d.registers.group).map Group.kind = Kind.all := by
    rw [List.map_map]
    exact List.map_id _
  rw [← hall]
  exact List.filter_sublist.map _

/-- Entries of a group come before those of a later one, and a group keeps the order of the set. -/
theorem sorted_flatMap_groups :
    ((d.listing interface).groups.flatMap Group.entries).Pairwise fun a b => a.1 < b.1 := by
  have hkinds : ((d.listing interface).groups.map Group.kind).Pairwise
      fun a b => a.order < b.order := Kind.pairwise_all.sublist map_kind_groups
  refine List.pairwise_flatMap.2 ⟨fun g hg => ?_, ?_⟩
  · rw [(mem_groups.1 hg).1]
    exact d.registers.sorted.filter _
  · refine (List.pairwise_map.1 hkinds).imp_of_mem fun {g g'} hg hg' hlt e he e' he' => ?_
    rw [mem_entries_of_mem_groups hg] at he
    rw [mem_entries_of_mem_groups hg'] at he'
    rw [← he.2, ← he'.2] at hlt
    exact .inl hlt

theorem flatMap_groups :
    (d.listing interface).groups.flatMap Group.entries = d.registers.entries := by
  refine SortedMap.entries_ext sorted_flatMap_groups d.registers.sorted fun e => ?_
  rw [List.mem_flatMap]
  constructor
  · rintro ⟨g, hg, he⟩
    exact ((mem_entries_of_mem_groups hg).1 he).1
  · intro he
    exact ⟨_, group_mem_groups he, mem_group.2 ⟨he, rfl⟩⟩

theorem partitions_listing (d : Description) (interface : Option String) :
    (d.listing interface).Partitions d.registers where
  kinds := map_kind_groups
  nonempty g hg := (mem_groups.1 hg).2
  own g hg e he := (mem_entries_of_mem_groups hg).1 he
  placed e he := by
    refine ⟨_, ⟨group_mem_groups he, mem_group.2 ⟨he, rfl⟩⟩, ?_⟩
    rintro g ⟨hg, heg⟩
    rw [((mem_entries_of_mem_groups hg).1 heg).2]
    exact (mem_groups.1 hg).1
  joined := flatMap_groups

/-! ## From a dump to the description -/

/-- A row under the kind of its entry stands for that entry. -/
theorem under_ofEntry {kind : Kind} (h : e.1.kind = kind) :
    (Row.ofEntry e).under kind = (e.1, (e.2.toNat : Int)) := by
  subst h
  rfl

theorem rows_dump (d : Description) (interface : Option String) :
    (d.listing interface).dump.rows = d.registers.rows := by
  rw [AddressSet.rows, ← flatMap_groups, List.map_flatMap]
  unfold Dump.rows Listing.dump
  rw [List.flatMap_map]
  refine List.flatMap_congr fun g hg => ?_
  dsimp only
  rw [Kind.ofName?_name, Option.toList_some, List.flatMap_singleton, List.map_map]
  exact List.map_congr_left fun e he => under_ofEntry ((mem_entries_of_mem_groups hg).1 he).2

theorem ofRows_rows (s : AddressSet) : AddressSet.ofRows s.rows = .ok s := by
  have hkeys : (s.rows.map (·.1)).Nodup := by
    rw [AddressSet.rows, List.map_map]
    exact s.keys_nodup
  refine AddressSet.ofRows_eq_ok_iff.2 ⟨fun r hr => ?_, funext fun l => Option.ext fun i => ?_⟩
  · obtain ⟨e, -, rfl⟩ := List.mem_map.1 hr
    exact ⟨Int.natCast_nonneg _, Int.ofNat_lt.2 (UInt32.toNat_lt e.2)⟩
  · rw [AddressSet.lastValue_eq_some_iff_of_nodup hkeys, AddressSet.contents_eq_some]
    simp only [SortedMap.get?_eq_some_iff, AddressSet.rows, List.mem_map, Prod.exists,
      Prod.mk.injEq]
    constructor
    · rintro ⟨w, hw, rfl⟩
      exact ⟨l, w, hw, rfl, rfl⟩
    · rintro ⟨_, w, hw, rfl, rfl⟩
      exact ⟨w, hw, rfl⟩

theorem description?_dump (d : Description) (interface : Option String) :
    (d.listing interface).dump.description? = some d := by
  rw [Dump.description?, rows_dump, ofRows_rows]
  rfl

/-! ## Dumps that are the same -/

/-- The entries of a set are what the groups of its dump show. -/
theorem mem_entries_iff_dump (interface : Option String) : e ∈ d.registers.entries ↔
    ∃ rows, (e.1.kind.name, rows) ∈ (d.listing interface).dump.elements ∧
      Row.ofEntry e ∈ rows := by
  simp only [Listing.dump, List.mem_map, Prod.mk.injEq]
  constructor
  · intro he
    have hrow := List.mem_map_of_mem (f := Row.ofEntry) (mem_group.2 ⟨he, rfl⟩)
    exact ⟨_, ⟨_, group_mem_groups he, rfl, rfl⟩, hrow⟩
  · rintro ⟨_, ⟨g, hg, hname, rfl⟩, hrow⟩
    obtain ⟨e', he', hrow⟩ := List.mem_map.1 hrow
    obtain ⟨hmem, hkind⟩ := (mem_entries_of_mem_groups hg).1 he'
    rwa [← Row.ofEntry_injective hrow (hkind.trans (Kind.name_injective hname))]

theorem same_dump_iff : (d.listing interface).dump.Same (d'.listing interface').dump ↔
    d = d' ∧ (d.listing interface).interface = (d'.listing interface').interface := by
  constructor
  · rintro ⟨hinterface, hsignature, helements⟩
    refine ⟨?_, hinterface⟩
    have hentries : d.registers.entries = d'.registers.entries := by
      refine SortedMap.entries_ext d.registers.sorted d'.registers.sorted fun e => ?_
      rw [mem_entries_iff_dump interface, mem_entries_iff_dump interface']
      simp only [helements]
    obtain ⟨signature, ⟨entries, sorted⟩⟩ := d
    obtain ⟨signature', ⟨entries', sorted'⟩⟩ := d'
    obtain rfl : signature = signature' := hsignature
    obtain rfl : entries = entries' := hentries
    rfl
  · rintro ⟨rfl, hinterface⟩
    exact ⟨hinterface, rfl, fun item => Iff.rfl⟩

end Description

/-- **Listings lose nothing.** The groups are the parts of the set by kinds: none is empty, they are
in declaration order, each entry stands in the one of its kind, and the groups in order are the
entries in order. The description is made again from what its listing shows, and two listings show
the same only of equal descriptions. -/
theorem listing_lossless (d d' : Description) (interface interface' : Option String) :
    (d.listing interface).Partitions d.registers ∧
      (d.listing interface).dump.rows = d.registers.rows ∧
      (d.listing interface).dump.description? = some d ∧
      ((d.listing interface).dump.Same (d'.listing interface').dump ↔
        d = d' ∧ (d.listing interface).interface = (d'.listing interface').interface) :=
  ⟨d.partitions_listing interface, d.rows_dump interface, d.description?_dump interface,
    Description.same_dump_iff⟩

end FpgaInterface
