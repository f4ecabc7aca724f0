import Conform.Proofs.OrderedMap
import Conform.Proofs.Path.Instances

/-!
# Expanded schemas

An expanded schema holds the instances of the declared paths, each once, in the order in which the
declarations first produce them. Chains that produce one path are joined; a block keeps its path.
-/

namespace Conform

/-- The path is an instance of the declared one, for some indices. -/
def Path.IsInstance (tree : Value) (declared path : String) : Prop :=
  ∃ indices, Produces tree declared indices path

theorem Path.isInstance_iff_fillings {tree : Value} {declared path : String} :
    IsInstance tree declared path ↔
      ∃ filling ∈ fillings tree [] (segments declared), filling.2 = segments path := by
  constructor
  · rintro ⟨indices, h⟩
    exact ⟨(indices, segments path), mem_fillings_iff.mpr h, rfl⟩
  · rintro ⟨⟨indices, parts⟩, h, rfl⟩
    exact ⟨indices, mem_fillings_iff.mp h⟩

instance (tree : Value) (declared path : String) :
    Decidable (Path.IsInstance tree declared path) :=
  decidable_of_iff _ Path.isInstance_iff_fillings.symm

/-- The shape of a path that several declarations produce. The first declaration decides: a block
stands alone, and a chain is joined with all other chains. -/
def Shape.combined : List Shape → Option Shape
  | [] => none
  | .rules first :: rest =>
    let chains := first :: rest.filterMap Shape.chain?
    some (.rules ⟨chains.flatMap (·.rules), chains.any (·.bail), chains.any (·.nullable)⟩)
  | block :: _ => some block

/-- One shape stands in the place of another: it is that shape, or both are chains. -/
def Shape.TakesPlaceOf (shape declared : Shape) : Prop :=
  shape = declared ∨ ∃ joined chain, shape = .rules joined ∧ declared = .rules chain

theorem Shape.foldl_merge_rules (chain : Chain) (shapes : List Shape) :
    shapes.foldl Shape.merge (.rules chain) =
      .rules ((shapes.filterMap Shape.chain?).foldl (· ++ ·) chain) := by
  induction shapes generalizing chain with
  | nil => rfl
  | cons shape rest ih =>
    cases shape <;> simp [List.filterMap_cons, Shape.merge, Shape.chain?, ih]

theorem Shape.foldl_merge_block {block : Shape} (h : block.chain? = none) (shapes : List Shape) :
    shapes.foldl Shape.merge block = block := by
  induction shapes with
  | nil => rfl
  | cons shape rest ih =>
    have hkeep : block.merge shape = block := by
      cases block <;> simp_all [Shape.merge, Shape.chain?]
    rw [List.foldl_cons, hkeep, ih]

theorem Chain.foldl_append (chain : Chain) (chains : List Chain) :
    chains.foldl (· ++ ·) chain =
      ⟨(chain :: chains).flatMap (·.rules), (chain :: chains).any (·.bail),
        (chain :: chains).any (·.nullable)⟩ := by
  induction chains generalizing chain with
  | nil => simp
  | cons next rest ih =>
    rw [List.foldl_cons, ih, Chain.append_eq]
    simp [Bool.or_assoc]

theorem Shape.mergeAll_eq_combined (shapes : List Shape) :
    OrderedMap.mergeAll Shape.merge shapes = Shape.combined shapes := by
  cases shapes with
  | nil => rfl
  | cons first rest =>
    cases first with
    | rules chain =>
      rw [OrderedMap.mergeAll, Shape.foldl_merge_rules, Chain.foldl_append]
      rfl
    | nested nullable fields => exact congrArg some (foldl_merge_block rfl rest)
    | each fields => exact congrArg some (foldl_merge_block rfl rest)

namespace Schema

/-- All paths of the schema may be declared. -/
def HasDeclarableKeys (schema : Schema) : Prop := ∀ key ∈ schema.keys, Path.IsDeclarable key

instance (schema : Schema) : Decidable schema.HasDeclarableKeys :=
  inferInstanceAs (Decidable (∀ key ∈ schema.keys, _))

/-- The shapes of the declarations that produce a path, in order of declaration. -/
def producers (schema : Schema) (tree : Value) (path : String) : List Shape :=
  (schema.entries.filter fun e => Path.IsInstance tree e.1 path).map (·.2)

/-- The declaration at a position is the first to produce the path, and does so by these indices. -/
def FirstProduces (schema : Schema) (tree : Value) (position : Nat) (indices : List Nat)
    (path : String) : Prop :=
  (∃ key, schema.keys[position]? = some key ∧ Path.Produces tree key indices path) ∧
    ∀ earlier < position, ∀ key, schema.keys[earlier]? = some key →
      ¬Path.IsInstance tree key path

/-- One path stands before another: an earlier declaration was the first to produce it, or the same
one was, by smaller indices in lexicographic order. -/
def Precedes (schema : Schema) (tree : Value) (path other : String) : Prop :=
  ∃ position indices position' indices', schema.FirstProduces tree position indices path ∧
    schema.FirstProduces tree position' indices' other ∧
    (position < position' ∨ position = position' ∧ indices < indices')

/-- What an expansion of a schema against a tree is. The keys, their order and the shapes under them
are all laid down. -/
structure IsExpansion (schema : Schema) (tree : Value) (result : Schema) : Prop where
  mem_keys : ∀ path, path ∈ result.keys ↔ ∃ key ∈ schema.keys, Path.IsInstance tree key path
  concrete : result.IsConcrete
  distinct : result.Distinct
  ordered : result.keys.Pairwise (schema.Precedes tree)
  entry : ∀ path, result.get? path = Shape.combined (schema.producers tree path)

/-! ## Keys -/

theorem keys_expand (schema : Schema) (tree : Value) :
    (schema.expand tree).keys =
      (schema.keys.flatMap fun key => Path.instances tree key).eraseDups := by
  rw [expand, OrderedMap.keys_insertAllWith, concrete, OrderedMap.keys, List.flatMap_map,
    List.map_flatMap]
  simp [Function.comp_def]

theorem mem_keys_expand {schema : Schema} (h : schema.HasDeclarableKeys) {tree : Value}
    {path : String} :
    path ∈ (schema.expand tree).keys ↔ ∃ key ∈ schema.keys, Path.IsInstance tree key path := by
  rw [keys_expand, List.mem_eraseDups, List.mem_flatMap]
  constructor
  · rintro ⟨key, hkey, hpath⟩
    exact ⟨key, hkey, (Path.mem_instances_iff (h key hkey)).mp hpath⟩
  · rintro ⟨key, hkey, hpath⟩
    exact ⟨key, hkey, (Path.mem_instances_iff (h key hkey)).mpr hpath⟩

theorem distinct_expand (schema : Schema) (tree : Value) : (schema.expand tree).Distinct := by
  rw [OrderedMap.Distinct, keys_expand]
  exact List.nodup_eraseDups _

theorem isConcrete_expand {schema : Schema} (h : schema.HasDeclarableKeys) (tree : Value) :
    (schema.expand tree).IsConcrete := by
  intro path hpath
  obtain ⟨key, -, indices, hproduces⟩ := (mem_keys_expand h).mp hpath
  exact hproduces.isConcrete

theorem hasDeclarableKeys_expand {schema : Schema} (h : schema.HasDeclarableKeys) (tree : Value) :
    (schema.expand tree).HasDeclarableKeys := by
  intro path hpath
  obtain ⟨key, hkey, indices, hproduces⟩ := (mem_keys_expand h).mp hpath
  exact hproduces.isDeclarable (h key hkey)

/-! ## Entries -/

theorem valuesAt_instances {tree : Value} {e : String × Shape} (h : Path.IsDeclarable e.1)
    (path : String) :
    OrderedMap.valuesAt path ((Path.instances tree e.1).map fun other => (other, e.2)) =
      if Path.IsInstance tree e.1 path then [e.2] else [] := by
  have hmem : path ∈ Path.instances tree e.1 ↔ Path.IsInstance tree e.1 path :=
    Path.mem_instances_iff h
  have honce := (Path.nodup_instances tree h).count (a := path)
  have hfilter : (Path.instances tree e.1).filter (fun other => decide (other = path)) =
      List.replicate ((Path.instances tree e.1).count path) path := by
    rw [← List.filter_beq]
    rfl
  simp only [OrderedMap.valuesAt, List.filter_map, Function.comp_def, List.map_map, hfilter, honce,
    hmem]
  split <;> simp

theorem valuesAt_concrete {schema : Schema} (h : schema.HasDeclarableKeys) (tree : Value)
    (path : String) :
    OrderedMap.valuesAt path (schema.concrete tree) = schema.producers tree path := by
  have hkeys : ∀ e ∈ schema.entries, Path.IsDeclarable e.1 :=
    fun e he => h e.1 (List.mem_map_of_mem he)
  have hsplit : OrderedMap.valuesAt path (schema.concrete tree) = schema.entries.flatMap fun e =>
      OrderedMap.valuesAt path ((Path.instances tree e.1).map fun other => (other, e.2)) := by
    simp only [OrderedMap.valuesAt, concrete, List.filter_flatMap, List.map_flatMap]
  rw [hsplit, producers]
  generalize schema.entries = entries at hkeys
  induction entries with
  | nil => rfl
  | cons e rest ih =>
    rw [List.flatMap_cons, valuesAt_instances (hkeys e (by simp)),
      ih fun x hx => hkeys x (by simp [hx]), List.filter_cons]
    split <;> simp_all

theorem get?_expand {schema : Schema} (h : schema.HasDeclarableKeys) (tree : Value)
    (path : String) :
    (schema.expand tree).get? path = Shape.combined (schema.producers tree path) := by
  rw [expand, OrderedMap.get?_insertAllWith, Shape.mergeAll_eq_combined, valuesAt_concrete h]

/-- What holds of all declared shapes and is kept by merging holds of all shapes of the
expansion. -/
theorem forall_mem_expand {p : Shape → Prop} (hmerge : ∀ a b, p a → p b → p (a.merge b))
    {schema : Schema} (h : ∀ e ∈ schema.entries, p e.2) {tree : Value} {e : String × Shape}
    (he : e ∈ (schema.expand tree).entries) : p e.2 := by
  have hget := OrderedMap.get?_of_mem (distinct_expand schema tree) he
  rw [expand, OrderedMap.get?_insertAllWith] at hget
  refine OrderedMap.forall_mergeAll hmerge (fun shape hshape => ?_) hget
  obtain ⟨x, hx, rfl⟩ := List.mem_map.mp hshape
  obtain ⟨declared, hdeclared, hx⟩ := List.mem_flatMap.mp (List.mem_filter.mp hx).1
  obtain ⟨path, -, rfl⟩ := List.mem_map.mp hx
  exact h declared hdeclared

theorem exists_entry_of_mem_producers {schema : Schema} {tree : Value} {path : String}
    {shape : Shape} (h : shape ∈ schema.producers tree path) :
    ∃ declared ∈ schema.entries, Path.IsInstance tree declared.1 path ∧ declared.2 = shape := by
  obtain ⟨declared, hmem, rfl⟩ := List.mem_map.mp h
  obtain ⟨hdeclared, hinstance⟩ := List.mem_filter.mp hmem
  exact ⟨declared, hdeclared, by simpa using hinstance, rfl⟩

theorem combined_producers {schema : Schema} (h : schema.HasDeclarableKeys) {tree : Value}
    {e : String × Shape} (he : e ∈ (schema.expand tree).entries) :
    Shape.combined (schema.producers tree e.1) = some e.2 := by
  rw [← get?_expand h, OrderedMap.get?_of_mem (distinct_expand schema tree) he]

/-- An entry of the expansion takes the place of a declaration that produces its path. -/
theorem exists_producer {schema : Schema} (h : schema.HasDeclarableKeys) {tree : Value}
    {e : String × Shape} (he : e ∈ (schema.expand tree).entries) :
    ∃ declared ∈ schema.entries, Path.IsInstance tree declared.1 e.1 ∧
      e.2.TakesPlaceOf declared.2 := by
  have hcombined := combined_producers h he
  cases hlist : schema.producers tree e.1 with
  | nil => rw [hlist] at hcombined; cases hcombined
  | cons first rest =>
    obtain ⟨declared, hdeclared, hinstance, hshape⟩ :=
      exists_entry_of_mem_producers (hlist ▸ List.mem_cons_self .. : first ∈ _)
    refine ⟨declared, hdeclared, hinstance, ?_⟩
    rw [hlist] at hcombined
    rw [hshape]
    cases first with
    | rules chain => exact .inr ⟨_, chain, (Option.some.inj hcombined).symm, rfl⟩
    | nested nullable fields => exact .inl (Option.some.inj hcombined).symm
    | each fields => exact .inl (Option.some.inj hcombined).symm

/-! ## Order -/

theorem exists_firstProduces {schema : Schema} {tree : Value} {path key : String} {position : Nat}
    (hkey : schema.keys[position]? = some key) (h : Path.IsInstance tree key path) :
    ∃ first ≤ position, ∃ indices, schema.FirstProduces tree first indices path := by
  let produces : String → Bool := fun key => Path.IsInstance tree key path
  have hmem : key ∈ schema.keys := List.mem_of_getElem? hkey
  have hlt : schema.keys.findIdx produces < schema.keys.length :=
    List.findIdx_lt_length_of_exists ⟨key, hmem, by simpa [produces] using h⟩
  have hbefore : ∀ earlier < schema.keys.findIdx produces, ∀ other,
      schema.keys[earlier]? = some other → ¬Path.IsInstance tree other path := by
    intro earlier hearlier other hother
    obtain ⟨hbound, rfl⟩ := List.getElem?_eq_some_iff.mp hother
    simpa [produces] using List.not_of_lt_findIdx hearlier
  have hfound : Path.IsInstance tree schema.keys[schema.keys.findIdx produces] path := by
    simpa [produces] using @List.findIdx_getElem _ produces _ hlt
  obtain ⟨indices, hindices⟩ := hfound
  refine ⟨_, ?_, indices, ⟨_, List.getElem?_eq_getElem hlt, hindices⟩, hbefore⟩
  by_contra hafter
  exact hbefore position (by omega) key hkey h

theorem pairwise_precedes {schema : Schema} (h : schema.HasDeclarableKeys) (tree : Value) :
    (schema.expand tree).keys.Pairwise (schema.Precedes tree) := by
  rw [keys_expand]
  refine (List.pairwise_eraseDups _).imp ?_
  rintro path other ⟨before, after, hsplit, hother, hpath⟩
  obtain ⟨ys, key, zs, front, back, hkeys, hinstances, rfl⟩ := List.flatMap_eq_append_cons hsplit
  have hdeclarable : ∀ k ∈ ys ++ key :: zs, Path.IsDeclarable k := fun k hk => h k (hkeys ▸ hk)
  have hkey : schema.keys[ys.length]? = some key := by simp [hkeys]
  have hearlier : ∀ earlier < ys.length, ∀ k, schema.keys[earlier]? = some k →
      ¬Path.IsInstance tree k other := by
    intro earlier hlt k hk hinstance
    rw [hkeys, List.getElem?_append_left hlt] at hk
    have hmem := List.mem_of_getElem? hk
    refine hother (List.mem_append_left _ (List.mem_flatMap.mpr ⟨k, hmem, ?_⟩))
    exact (Path.mem_instances_iff (hdeclarable k (by simp [hmem]))).mpr hinstance
  have hk := hdeclarable key (by simp)
  rcases List.mem_append.mp hpath with hpath | hpath
  · -- an earlier declaration produces the first path
    obtain ⟨k, hmem, hinstance⟩ := List.mem_flatMap.mp hpath
    obtain ⟨i, hi, rfl⟩ := List.getElem_of_mem hmem
    have hget : schema.keys[i]? = some ys[i] := by
      rw [hkeys, List.getElem?_append_left hi, List.getElem?_eq_getElem hi]
    have hpathInstance := (Path.mem_instances_iff (hdeclarable ys[i] (by simp))).mp hinstance
    obtain ⟨first, hle, indices, hfirst⟩ := exists_firstProduces hget hpathInstance
    have hotherInstance : other ∈ Path.instances tree key := by simp [hinstances]
    obtain ⟨indices', hindices'⟩ := (Path.mem_instances_iff hk).mp hotherInstance
    exact ⟨first, indices, ys.length, indices', hfirst, ⟨⟨key, hkey, hindices'⟩, hearlier⟩,
      .inl (by omega)⟩
  · -- the declaration that first produces the second path produces the first path before it
    have hpair := Path.pairwise_instances tree hk
    rw [hinstances, List.pairwise_append] at hpair
    obtain ⟨indices, indices', hindices, hindices', hlt⟩ := hpair.2.2 path hpath other (by simp)
    obtain ⟨first, hle, indices₀, hfirst⟩ := exists_firstProduces hkey ⟨indices, hindices⟩
    refine ⟨first, indices₀, ys.length, indices', hfirst,
      ⟨⟨key, hkey, hindices'⟩, hearlier⟩, ?_⟩
    rcases Nat.lt_or_eq_of_le hle with hless | heq
    · exact .inl hless
    · obtain ⟨k, hget, hindices₀⟩ := hfirst.1
      have : k = key := by
        rw [heq, hkey] at hget
        exact (Option.some.inj hget).symm
      subst this
      exact .inr ⟨heq, hindices₀.indices_unique hindices ▸ hlt⟩

theorem expand_eq_self {schema : Schema} (hd : schema.HasDeclarableKeys)
    (hdistinct : schema.Distinct) (hc : schema.IsConcrete) (tree : Value) :
    schema.expand tree = schema := by
  have hinstances : schema.concrete tree = schema.entries := by
    have : ∀ e ∈ schema.entries, Path.instances tree e.1 = [e.1] := by
      intro e he
      have hkey : e.1 ∈ schema.keys := List.mem_map_of_mem he
      exact Path.instances_of_not_isPattern tree (hd _ hkey) (hc _ hkey)
    rw [concrete]
    generalize schema.entries = entries at this
    induction entries with
    | nil => rfl
    | cons e rest ih =>
      rw [List.flatMap_cons, this e (by simp), ih fun x hx => this x (by simp [hx])]
      rfl
  rw [expand, hinstances, OrderedMap.insertAllWith_of_distinct _ hdistinct]

/-- Expansion gives every instance of a declared path once, in order of declaration and index, with
the shapes of all its declarations combined. There is nothing left to expand then. -/
theorem isExpansion_expand (schema : Schema) (tree : Value) (h : schema.HasDeclarableKeys) :
    schema.IsExpansion tree (schema.expand tree) ∧
      (schema.expand tree).expand tree = schema.expand tree := by
  constructor
  · exact {
      mem_keys := fun path => mem_keys_expand h
      concrete := isConcrete_expand h tree
      distinct := distinct_expand schema tree
      ordered := pairwise_precedes h tree
      entry := get?_expand h tree }
  · exact expand_eq_self (hasDeclarableKeys_expand h tree) (distinct_expand schema tree)
      (isConcrete_expand h tree) tree

theorem isExpansion_expand_of_overlap :
    ∃ (schema : Schema) (tree : Value), schema.HasDeclarableKeys ∧
      schema.IsExpansion tree (schema.expand tree) ∧
      (schema.expand tree).expand tree = schema.expand tree ∧
      (schema.expand tree).keys = ["rows.0.0", "rows.1.0", "rows.1.1"] := by
  have hdeclarable : HasDeclarableKeys
      ⟨[("rows.*.*", .rules { bail := true }), ("rows.1.0", .rules {})]⟩ := by decide
  obtain ⟨hexpansion, hagain⟩ := isExpansion_expand _
    (.obj [("rows", .arr [.arr [.null], .arr [.null, .null]])]) hdeclarable
  exact ⟨_, _, hdeclarable, hexpansion, hagain, rfl⟩

end Schema

end Conform
