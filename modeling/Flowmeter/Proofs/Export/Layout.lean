import Flowmeter.Export.Layout
import Flowmeter.Proofs.Export.Catalog
import Mathlib.Data.List.Induction
import Mathlib.Data.List.Nodup

/-!
# Layouts deal the selected fields out

The names of an interface map are checked in the order of the text, and the first one that is not
known or was named before is reported (`Reports`). If there is none, each group has an interface,
and every selected field of its plugins stands there once and nowhere else (`IsPartition`). Both
together say what is built from any map, selection and catalog (`build_isPartition`).
-/

namespace Flowmeter

namespace Selection

variable {s : Selection} {d : Descriptor} {plugins : List String}

/-- A selection is increasing, so it has no field twice. -/
theorem nodup_fields (s : Selection) : s.fields.Nodup := by
  refine s.increasing.imp ?_
  rintro d _ h rfl
  exact Descriptor.lt_irrefl d h

/-- Listed plugin by plugin stand the selected fields of these plugins. -/
theorem mem_flatMap_fieldsOf : d ∈ plugins.flatMap s.fieldsOf ↔ d ∈ s ∧ d.plugin ∈ plugins := by
  simp only [List.mem_flatMap, fieldsOf, List.mem_filter, beq_iff_eq]
  constructor
  · rintro ⟨_, hplugin, hd, rfl⟩
    exact ⟨hd, hplugin⟩
  · rintro ⟨hd, hplugin⟩
    exact ⟨_, hplugin, hd, rfl⟩

/-- Distinct plugins share no field. -/
theorem nodup_flatMap_fieldsOf (h : plugins.Nodup) : (plugins.flatMap s.fieldsOf).Nodup := by
  refine List.nodup_flatMap.2 ⟨fun plugin _ => s.nodup_fields.filter _, h.imp ?_⟩
  intro plugin other hne d hd hd'
  simp only [fieldsOf, List.mem_filter, beq_iff_eq] at hd hd'
  exact hne (hd.2.symm.trans hd'.2)

/-- Each selected field of the plugins is listed exactly once. -/
theorem count_flatMap_fieldsOf (h : plugins.Nodup) :
    (plugins.flatMap s.fieldsOf).count d = if d ∈ s ∧ d.plugin ∈ plugins then 1 else 0 := by
  rw [(nodup_flatMap_fieldsOf h).count]
  simp only [mem_flatMap_fieldsOf]

/-- A plugin that is not listed has no field in the list. -/
theorem filter_flatMap_fieldsOf_of_not_mem {plugin : String} (h : plugin ∉ plugins) :
    (plugins.flatMap s.fieldsOf).filter (·.plugin == plugin) = [] := by
  refine List.filter_eq_nil_iff.2 fun d hd hplugin => h ?_
  rw [← beq_iff_eq.1 hplugin]
  exact (mem_flatMap_fieldsOf.1 hd).2

/-- The fields of one plugin keep their order. -/
theorem filter_flatMap_fieldsOf {plugin : String} (h : plugins.Nodup) (hplugin : plugin ∈ plugins) :
    (plugins.flatMap s.fieldsOf).filter (·.plugin == plugin) = s.fieldsOf plugin := by
  obtain ⟨before, after, rfl⟩ := List.append_of_mem hplugin
  obtain ⟨-, hafter, hbefore⟩ := List.nodup_append.1 h
  have hnot : plugin ∉ before := fun hmem => hbefore _ hmem _ List.mem_cons_self rfl
  rw [List.flatMap_append, List.flatMap_cons, List.filter_append, List.filter_append,
    filter_flatMap_fieldsOf_of_not_mem hnot,
    filter_flatMap_fieldsOf_of_not_mem (List.nodup_cons.1 hafter).1, List.nil_append,
    List.append_nil, fieldsOf, List.filter_filter]
  simp only [Bool.and_self]

end Selection

namespace Layout

variable {c : Catalog} {s : Selection} {l : Layout} {e : LayoutError}
  {groups : List InterfaceGroup} {plugin : String} {index : Nat}

/-! ## The names in the order of the text -/

/-- The groups of a longer map keep their indices, and those behind them go on counting. -/
theorem mentions_append (earlier later : List InterfaceGroup) :
    mentions (earlier ++ later) = mentions earlier ++
      (later.zipIdx earlier.length).flatMap fun (group, index) => group.names.map (·, index) := by
  unfold mentions
  rw [List.zipIdx_append, List.flatMap_append, Nat.zero_add]

theorem mentions_concat (groups : List InterfaceGroup) (group : InterfaceGroup) :
    mentions (groups ++ [group]) = mentions groups ++ group.names.map (·, groups.length) := by
  rw [mentions_append, List.zipIdx_singleton, List.flatMap_singleton]

theorem map_fst_mentions (groups : List InterfaceGroup) :
    (mentions groups).map Prod.fst = groups.flatMap (·.names) := by
  induction groups using List.reverseRecOn with
  | nil => rfl
  | append_singleton groups group ih =>
    rw [mentions_concat, List.map_append, ih, List.map_map, List.flatMap_append,
      List.flatMap_singleton]
    exact congrArg _ (List.map_id _)

/-- A name is mentioned with the index of each group that it stands in. -/
theorem mem_mentions :
    (plugin, index) ∈ mentions groups ↔ ∃ g, groups[index]? = some g ∧ plugin ∈ g.names := by
  simp only [mentions, List.mem_flatMap, Prod.exists, List.mk_mem_zipIdx_iff_getElem?,
    List.mem_map, Prod.mk.injEq]
  constructor
  · rintro ⟨g, _, hg, _, hplugin, rfl, rfl⟩
    exact ⟨g, hg, hplugin⟩
  · rintro ⟨g, hg, hplugin⟩
    exact ⟨g, _, hg, _, hplugin, rfl, rfl⟩

/-- `read` is the map up to a name `plugin` in the group with the given index. -/
def IsUpTo (groups read : List InterfaceGroup) (plugin : String) (index : Nat) : Prop :=
  ∃ earlier before after later, groups = earlier ++ ⟨before ++ plugin :: after⟩ :: later ∧
    index = earlier.length ∧ read = earlier ++ [⟨before⟩]

/-- A further group behind a map changes nothing about what stands before a name. -/
theorem IsUpTo.append_singleton {read : List InterfaceGroup} (h : IsUpTo groups read plugin index)
    (group : InterfaceGroup) : IsUpTo (groups ++ [group]) read plugin index := by
  obtain ⟨earlier, before, after, later, rfl, hread⟩ := h
  refine ⟨earlier, before, after, later ++ [group], ?_, hread⟩
  rw [List.append_assoc, List.cons_append]

/-- What is mentioned up to a name, and then the name. -/
theorem IsUpTo.exists_mentions {read : List InterfaceGroup} (h : IsUpTo groups read plugin index) :
    ∃ rest, mentions groups = mentions read ++ (plugin, index) :: rest := by
  obtain ⟨earlier, before, after, later, rfl, rfl, rfl⟩ := h
  refine ⟨after.map (·, earlier.length) ++ (later.zipIdx (earlier.length + 1)).flatMap
    fun (group, index) => group.names.map (·, index), ?_⟩
  rw [mentions_append, mentions_concat, List.zipIdx_cons, List.flatMap_cons]
  simp only [List.map_append, List.map_cons, List.append_assoc, List.cons_append]

/-- The names before a name are those of the map up to it. -/
theorem exists_isUpTo {seen rest : List (String × Nat)}
    (h : mentions groups = seen ++ (plugin, index) :: rest) :
    ∃ read, IsUpTo groups read plugin index ∧ seen = mentions read := by
  induction groups using List.reverseRecOn generalizing rest with
  | nil => simp [mentions] at h
  | append_singleton groups group ih =>
    -- where the last group begins, both cases of an append name the same split
    have hlast : ∀ first, seen = mentions groups ++ first →
        group.names.map (·, groups.length) = first ++ (plugin, index) :: rest →
        ∃ read, IsUpTo (groups ++ [group]) read plugin index ∧ seen = mentions read := by
      rintro first rfl hnames
      obtain ⟨before, names, hname, rfl, htail⟩ := List.map_eq_append_iff.1 hnames
      obtain ⟨name, after, rfl, hmention, -⟩ := List.map_eq_cons_iff.1 htail
      cases hmention
      refine ⟨_, ⟨groups, before, after, [], ?_, rfl, rfl⟩, (mentions_concat groups _).symm⟩
      rw [← hname]
    rw [mentions_concat, List.append_eq_append_iff] at h
    rcases h with ⟨first, hseen, hnames⟩ | ⟨more, hgroups, hrest⟩
    · exact hlast first hseen hnames
    · cases more with
      | nil => exact hlast [] (by rw [hgroups, List.append_nil, List.append_nil]) hrest.symm
      | cons mention more =>
        cases hrest
        obtain ⟨read, hread, hseen⟩ := ih hgroups
        exact ⟨read, hread.append_singleton group, hseen⟩

/-! ## The check -/

/-- A known name that was not named before is passed and remembered. -/
theorem check_cons_of_new {before rest : List (String × Nat)} (hknown : c.hasPlugin plugin = true)
    (hnew : before.lookup plugin = none) :
    check c before ((plugin, index) :: rest) = check c ((plugin, index) :: before) rest := by
  rw [check, if_pos hknown, hnew]

/-- What has been passed is remembered, last name first, when the check goes on. -/
theorem check_append {before earlier later : List (String × Nat)}
    (h : check c before earlier = .ok ()) :
    check c before (earlier ++ later) = check c (earlier.reverse ++ before) later := by
  fun_induction check c before earlier with
  | case1 before => rfl
  | case2 before plugin index rest hknown first hfirst => cases h
  | case3 before plugin index rest hknown hnew ih =>
    rw [List.cons_append, check_cons_of_new hknown hnew, ih h, List.reverse_cons,
      List.append_assoc]
    rfl
  | case4 before plugin index rest hunknown => cases h

/-- The check succeeds exactly if all names are known, new, and different from each other. -/
theorem check_eq_ok_iff {before mentioned : List (String × Nat)} :
    check c before mentioned = .ok () ↔
      (∀ name ∈ mentioned.map Prod.fst, c.hasPlugin name = true ∧ name ∉ before.map Prod.fst) ∧
        (mentioned.map Prod.fst).Nodup := by
  fun_induction check c before mentioned with
  | case1 before => simp
  | case2 before plugin index rest hknown first hfirst =>
    have hmem : plugin ∈ before.map Prod.fst := by
      refine Decidable.by_contra fun hnot => ?_
      rw [Catalog.lookup_eq_none_iff_not_mem.2 hnot] at hfirst
      cases hfirst
    simp only [List.map_cons, List.forall_mem_cons, hmem, not_true_eq_false, and_false, false_and,
      reduceCtorEq]
  | case3 before plugin index rest hknown hnew ih =>
    rw [ih, List.map_cons, List.map_cons, List.forall_mem_cons, List.nodup_cons]
    have hnot := Catalog.lookup_eq_none_iff_not_mem.1 hnew
    constructor
    · rintro ⟨hrest, hnodup⟩
      refine ⟨⟨⟨hknown, hnot⟩, fun name hname => ?_⟩, fun hmem => ?_, hnodup⟩
      · exact ⟨(hrest name hname).1, List.not_mem_of_not_mem_cons (hrest name hname).2⟩
      · exact (hrest plugin hmem).2 List.mem_cons_self
    · rintro ⟨⟨-, hrest⟩, hplugin, hnodup⟩
      refine ⟨fun name hname => ⟨(hrest name hname).1, ?_⟩, hnodup⟩
      rintro (_ | ⟨_, hmem⟩)
      · exact hplugin hname
      · exact (hrest name hname).2 hmem
  | case4 before plugin index rest hunknown =>
    simp only [List.map_cons, List.forall_mem_cons, hunknown, Bool.false_eq_true, false_and,
      reduceCtorEq]

/-- What makes the check fail at a name behind the names `seen`. -/
def Offends (c : Catalog) (seen : List (String × Nat)) (plugin : String) (index : Nat)
    (e : LayoutError) : Prop :=
  c.hasPlugin plugin = false ∧ e = .unknownPlugin plugin ∨
    c.hasPlugin plugin = true ∧
      ∃ first, seen.lookup plugin = some first ∧ e = .duplicatePlugin plugin first index

/-- It fails exactly at the first name that makes it fail. -/
theorem check_eq_error_iff {before mentioned : List (String × Nat)} :
    check c before mentioned = .error e ↔
      ∃ earlier plugin index later, mentioned = earlier ++ (plugin, index) :: later ∧
        check c before earlier = .ok () ∧
        Offends c (earlier.reverse ++ before) plugin index e := by
  constructor
  · intro h
    fun_induction check c before mentioned with
    | case1 before => cases h
    | case2 before plugin index rest hknown first hfirst =>
      cases h
      exact ⟨[], plugin, index, rest, rfl, rfl, .inr ⟨hknown, first, hfirst, rfl⟩⟩
    | case3 before plugin index rest hknown hnew ih =>
      obtain ⟨earlier, name, place, later, rfl, hok, hoffends⟩ := ih h
      refine ⟨(plugin, index) :: earlier, name, place, later, rfl, ?_, ?_⟩
      · rw [check_cons_of_new hknown hnew, hok]
      · rwa [List.reverse_cons, List.append_assoc]
    | case4 before plugin index rest hunknown =>
      cases h
      exact ⟨[], plugin, index, rest, rfl, rfl, .inl ⟨Bool.eq_false_iff.2 hunknown, rfl⟩⟩
  · rintro ⟨earlier, plugin, index, later, rfl, hok, hoffends⟩
    rw [check_append hok]
    rcases hoffends with ⟨hunknown, rfl⟩ | ⟨hknown, first, hfirst, rfl⟩
    · rw [check, if_neg (by simp [hunknown])]
    · rw [check, if_pos hknown, hfirst]

/-! ## Failure -/

/-- The first name in the order of the text that is not known or was named before is reported, and
of one that was, the group that it was named in and the one that it stands in. -/
def Reports (c : Catalog) (groups : List InterfaceGroup) (e : LayoutError) : Prop :=
  ∃ read plugin index, IsUpTo groups read plugin index ∧
    (∀ name ∈ read.flatMap InterfaceGroup.names, c.hasPlugin name = true) ∧
    (read.flatMap InterfaceGroup.names).Nodup ∧
    (c.hasPlugin plugin = false ∧ e = .unknownPlugin plugin ∨
      ∃ first g, read[first]? = some g ∧ plugin ∈ g.names ∧
        e = .duplicatePlugin plugin first index)

/-- The names of a map pass if they are known and no name stands in it twice. -/
theorem check_mentions_eq_ok_iff :
    check c [] (mentions groups) = .ok () ↔
      (∀ name ∈ groups.flatMap InterfaceGroup.names, c.hasPlugin name = true) ∧
        (groups.flatMap InterfaceGroup.names).Nodup := by
  rw [check_eq_ok_iff, map_fst_mentions]
  simp only [List.map_nil, List.not_mem_nil, not_false_eq_true, and_true]

/-- Where no name stands twice, what is remembered of a name is the group that it stands in. -/
theorem lookup_reverse_mentions (h : (groups.flatMap InterfaceGroup.names).Nodup) :
    ((mentions groups).reverse ++ []).lookup plugin = some index ↔
      ∃ g, groups[index]? = some g ∧ plugin ∈ g.names := by
  rw [List.append_nil, Catalog.lookup_eq_some_iff_mem, List.mem_reverse, mem_mentions]
  rwa [List.map_reverse, List.nodup_reverse, map_fst_mentions]

/-- The failing check of a map reports the first name that cannot stand where it does. -/
theorem check_mentions_eq_error_iff :
    check c [] (mentions groups) = .error e ↔ Reports c groups e := by
  rw [check_eq_error_iff]
  constructor
  · rintro ⟨seen, plugin, index, rest, hmentions, hok, hoffends⟩
    obtain ⟨read, hread, rfl⟩ := exists_isUpTo hmentions
    obtain ⟨hknown, hnodup⟩ := check_mentions_eq_ok_iff.1 hok
    refine ⟨read, plugin, index, hread, hknown, hnodup, ?_⟩
    rcases hoffends with hunknown | ⟨-, first, hfirst, rfl⟩
    · exact .inl hunknown
    · obtain ⟨g, hg, hplugin⟩ := (lookup_reverse_mentions hnodup).1 hfirst
      exact .inr ⟨first, g, hg, hplugin, rfl⟩
  · rintro ⟨read, plugin, index, hread, hknown, hnodup, hreason⟩
    obtain ⟨rest, hmentions⟩ := hread.exists_mentions
    refine ⟨_, plugin, index, rest, hmentions, check_mentions_eq_ok_iff.2 ⟨hknown, hnodup⟩, ?_⟩
    rcases hreason with hunknown | ⟨first, g, hg, hplugin, rfl⟩
    · exact .inl hunknown
    · refine .inr ⟨hknown plugin ?_, first, ?_, rfl⟩
      · exact List.mem_flatMap.2 ⟨g, List.mem_of_getElem? hg, hplugin⟩
      · exact (lookup_reverse_mentions hnodup).2 ⟨g, hg, hplugin⟩

/-! ## Success -/

/-- One interface for each group, in their order. -/
def dealt (groups : List InterfaceGroup) (s : Selection) : Layout :=
  ⟨groups.zipIdx.map fun (group, index) => interface s group index⟩

/-- A layout is refused for its names alone. -/
theorem build_eq_error_iff :
    build groups s c = .error e ↔ check c [] (mentions groups) = .error e := by
  unfold build
  cases check c [] (mentions groups) <;> simp [bind, Except.bind, pure, Except.pure]

theorem build_eq_ok_iff :
    build groups s c = .ok l ↔ check c [] (mentions groups) = .ok () ∧ l = dealt groups s := by
  unfold build
  cases check c [] (mentions groups) <;>
    simp [bind, Except.bind, pure, Except.pure, dealt, eq_comm]

/-- The selected fields are dealt out to one interface for each group. -/
structure IsPartition (groups : List InterfaceGroup) (s : Selection) (l : Layout) : Prop where
  plugins_eq : l.interfaces.map OutputInterface.plugins = groups.map InterfaceGroup.names
  index_eq : ∀ (i : Nat) (o : OutputInterface), l.interfaces[i]? = some o → o.index = i
  /-- What is selected of the plugins of an interface stands there once, and nothing else. -/
  count_eq : ∀ o ∈ l.interfaces, ∀ d,
    o.fields.count d = if d ∈ s ∧ d.plugin ∈ o.plugins then 1 else 0
  disjoint : ∀ (i j : Nat) (o o' : OutputInterface), l.interfaces[i]? = some o →
    l.interfaces[j]? = some o' → ∀ d ∈ o.fields, d ∈ o'.fields → i = j
  order_eq : ∀ o ∈ l.interfaces, ∀ plugin ∈ o.plugins,
    o.fields.filter (·.plugin == plugin) = s.fields.filter (·.plugin == plugin)
  interfaceOf?_eq_some_iff : ∀ (plugin : String) (i : Nat),
    l.interfaceOf? plugin = some i ↔ ∃ g, groups[i]? = some g ∧ plugin ∈ g.names

/-- Where no name stands twice, a name stands in one group only. -/
theorem eq_of_mem_names {i j : Nat} {g g' : InterfaceGroup}
    (h : (groups.flatMap InterfaceGroup.names).Nodup) (hg : groups[i]? = some g)
    (hg' : groups[j]? = some g') (hplugin : plugin ∈ g.names) (hplugin' : plugin ∈ g'.names) :
    i = j := by
  obtain ⟨hi, rfl⟩ := List.getElem?_eq_some_iff.1 hg
  obtain ⟨hj, rfl⟩ := List.getElem?_eq_some_iff.1 hg'
  have hdisjoint := List.pairwise_iff_getElem.1 (List.nodup_flatMap.1 h).2
  rcases Nat.lt_trichotomy i j with hij | rfl | hij
  · exact absurd hplugin' (hdisjoint i j hi hj hij hplugin)
  · rfl
  · exact absurd hplugin (hdisjoint j i hj hi hij hplugin')

/-- The interface at an index is the one of the group at that index. -/
theorem interfaces_dealt_getElem? {i : Nat} {o : OutputInterface} :
    (dealt groups s).interfaces[i]? = some o ↔
      ∃ g, groups[i]? = some g ∧ interface s g i = o := by
  simp only [dealt, List.getElem?_map, List.getElem?_zipIdx, Option.map_map, Option.map_eq_some_iff,
    Nat.zero_add, Function.comp_apply]

theorem mem_interfaces_dealt {o : OutputInterface} :
    o ∈ (dealt groups s).interfaces ↔ ∃ i g, groups[i]? = some g ∧ interface s g i = o := by
  simp only [List.mem_iff_getElem?, interfaces_dealt_getElem?]

/-- Fields of a plugin go to the group that names it, where no name stands twice. -/
theorem interfaceOf?_dealt (h : (groups.flatMap InterfaceGroup.names).Nodup) {i : Nat} :
    (dealt groups s).interfaceOf? plugin = some i ↔
      ∃ g, groups[i]? = some g ∧ plugin ∈ g.names := by
  have hfound : ∀ {j}, (dealt groups s).interfaceOf? plugin = some j →
      ∃ g, groups[j]? = some g ∧ plugin ∈ g.names := by
    intro j hj
    obtain ⟨o, ho, rfl⟩ := Option.map_eq_some_iff.1 hj
    obtain ⟨k, g, hg, rfl⟩ := mem_interfaces_dealt.1 (List.mem_of_find?_eq_some ho)
    have hcontains := List.find?_some ho
    exact ⟨g, hg, List.contains_iff_mem.1 hcontains⟩
  refine ⟨hfound, ?_⟩
  rintro ⟨g, hg, hplugin⟩
  have hsome : ((dealt groups s).interfaces.find? (·.plugins.contains plugin)).isSome = true := by
    refine List.find?_isSome.2 ⟨_, mem_interfaces_dealt.2 ⟨i, g, hg, rfl⟩, ?_⟩
    exact List.contains_iff_mem.2 hplugin
  obtain ⟨o, ho⟩ := Option.isSome_iff_exists.1 hsome
  have hj : (dealt groups s).interfaceOf? plugin = some o.index := by
    rw [interfaceOf?, ho, Option.map_some]
  obtain ⟨g', hg', hplugin'⟩ := hfound hj
  rw [hj, eq_of_mem_names h hg' hg hplugin' hplugin]

theorem nodup_names {i : Nat} {g : InterfaceGroup}
    (h : (groups.flatMap InterfaceGroup.names).Nodup) (hg : groups[i]? = some g) : g.names.Nodup :=
  (List.nodup_flatMap.1 h).1 g (List.mem_of_getElem? hg)

/-- Dealing out one interface for each group is a partition, if no name stands twice. -/
theorem isPartition_dealt (h : (groups.flatMap InterfaceGroup.names).Nodup) :
    (dealt groups s).IsPartition groups s where
  plugins_eq := by
    refine List.ext_getElem? fun i => ?_
    simp only [dealt, List.getElem?_map, List.getElem?_zipIdx, Option.map_map]
    rfl
  index_eq := by
    intro i o ho
    obtain ⟨g, -, rfl⟩ := interfaces_dealt_getElem?.1 ho
    rfl
  count_eq := by
    intro o ho d
    obtain ⟨i, g, hg, rfl⟩ := mem_interfaces_dealt.1 ho
    exact Selection.count_flatMap_fieldsOf (nodup_names h hg)
  disjoint := by
    intro i j o o' ho ho' d hd hd'
    obtain ⟨g, hg, rfl⟩ := interfaces_dealt_getElem?.1 ho
    obtain ⟨g', hg', rfl⟩ := interfaces_dealt_getElem?.1 ho'
    exact eq_of_mem_names h hg hg' (Selection.mem_flatMap_fieldsOf.1 hd).2
      (Selection.mem_flatMap_fieldsOf.1 hd').2
  order_eq := by
    intro o ho plugin hplugin
    obtain ⟨i, g, hg, rfl⟩ := mem_interfaces_dealt.1 ho
    exact Selection.filter_flatMap_fieldsOf (nodup_names h hg) hplugin
  interfaceOf?_eq_some_iff _ _ := interfaceOf?_dealt h

/-- **A layout is an exact partition.** There is a layout exactly if every name in the interface map
is that of a known plugin and stands there once; otherwise the first name to blame is reported. A
layout has one interface for each group, and what is selected of the plugins of the group stands
there once, in the order of the selection, and on no other interface. -/
theorem build_isPartition (groups : List InterfaceGroup) (s : Selection) (c : Catalog) :
    ((∃ l, build groups s c = .ok l) ↔
      (∀ name ∈ groups.flatMap InterfaceGroup.names, c.hasPlugin name = true) ∧
        (groups.flatMap InterfaceGroup.names).Nodup) ∧
    (∀ e, build groups s c = .error e ↔ Reports c groups e) ∧
    ∀ l, build groups s c = .ok l → l.IsPartition groups s := by
  refine ⟨?_, fun e => build_eq_error_iff.trans check_mentions_eq_error_iff, fun l hl => ?_⟩
  · simp only [build_eq_ok_iff, exists_and_left, exists_eq, and_true, check_mentions_eq_ok_iff]
  · obtain ⟨hok, rfl⟩ := build_eq_ok_iff.1 hl
    exact isPartition_dealt (check_mentions_eq_ok_iff.1 hok).2

/-- Two plugins on the first interface, and one of them without selected fields. -/
theorem build_isPartition_shared :
    let c := Catalog.ofTable [("http", ["HOST"]), ("quic", ["SNI", "VERSION"]), ("tls", ["SNI"])]
    let groups : List InterfaceGroup := [⟨["quic", "http"]⟩, ⟨["tls"]⟩]
    let s := Selection.ofList [⟨"tls", "SNI"⟩, ⟨"quic", "VERSION"⟩, ⟨"quic", "SNI"⟩]
    ∃ l, build groups s c = .ok l ∧
      l.interfaces.map OutputInterface.fields =
        [[⟨"quic", "SNI"⟩, ⟨"quic", "VERSION"⟩], [⟨"tls", "SNI"⟩]] ∧
      l.IsPartition groups s := by
  intro c groups s
  have hbuild : build groups s c = .ok (dealt groups s) := by decide +kernel
  exact ⟨dealt groups s, hbuild, by decide +kernel, (build_isPartition groups s c).2.2 _ hbuild⟩

end Layout

end Flowmeter
