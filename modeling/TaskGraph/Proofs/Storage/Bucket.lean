import TaskGraph.Proofs.Text
import TaskGraph.Storage.Session

/-! Roots of pipelines. A root is a scheme, a bucket, a path in it and a query, and it is so in one way
only: each part ends at the first character that it cannot have. -/

namespace TaskGraph

theorem StorageProvider.ofName?_eq_some_iff {name : String} {provider : StorageProvider} :
    ofName? name = some provider ↔ name = provider.name := by
  constructor
  · intro found
    unfold ofName? at found
    split at found <;> obtain ⟨⟩ := found <;> rfl
  · rintro rfl
    cases provider <;> rfl

/-- A place in an object store. -/
structure PlaceParts where
  bucket : List Char
  path : List Char
  query : List Char

namespace PlaceParts

variable {s path query : List Char} {p : PlaceParts}

def text (p : PlaceParts) : List Char := p.bucket ++ p.path ++ p.query

inductive IsPath : List Char → Prop where
  | none : IsPath []
  | some (rest : List Char) (plain : '?' ∉ rest) : IsPath ('/' :: rest)

inductive IsQuery : List Char → Prop where
  | none : IsQuery []
  | some (rest : List Char) (full : rest ≠ []) (line : '\n' ∉ rest) : IsQuery ('?' :: rest)

structure Lawful (p : PlaceParts) : Prop where
  full : p.bucket ≠ []
  bucket : ∀ c ∈ p.bucket, c ≠ '/' ∧ c ≠ '?'
  path : IsPath p.path
  query : IsQuery p.query

theorem query?_eq_some_iff : Bucket.query? s = some query ↔ s = query ∧ IsQuery query := by
  constructor
  · intro found
    cases s with
    | nil =>
      obtain ⟨⟩ := found
      exact ⟨rfl, .none⟩
    | cons c rest =>
      unfold Bucket.query? at found
      split at found
      · contradiction
      · rename_i other same
        obtain ⟨rfl, rfl⟩ := List.cons.inj same
        by_cases bad : rest.isEmpty || rest.contains '\n'
        · rw [if_pos bad] at found
          cases found
        · rw [if_neg bad] at found
          obtain ⟨⟩ := found
          simp only [Bool.or_eq_true, List.isEmpty_iff, List.contains_iff_mem, not_or] at bad
          exact ⟨rfl, .some rest bad.1 bad.2⟩
      · cases found
  · rintro ⟨rfl, lawful⟩
    cases lawful with
    | none => rfl
    | some rest full line => simp [Bucket.query?, full, line]

/-- The path that a text starts with. -/
def pathOf (s : List Char) : List Char :=
  if s.head? = some '/' then s.takeWhile (· ≠ '?') else []

theorem isPath_pathOf (s : List Char) : IsPath (pathOf s) := by
  unfold pathOf
  by_cases slash : s.head? = some '/'
  · rw [if_pos slash]
    cases s with
    | nil => cases slash
    | cons c rest =>
      obtain ⟨⟩ := slash
      rw [List.takeWhile_cons_of_pos (by decide)]
      exact .some _ fun member => by simpa using List.mem_takeWhile_imp member
  · rw [if_neg slash]
    exact .none

theorem pathOf_append_drop (s : List Char) : pathOf s ++ s.drop (pathOf s).length = s := by
  have start : pathOf s <+: s := by
    unfold pathOf
    split
    · exact List.takeWhile_prefix _
    · exact List.nil_prefix
  exact List.prefix_iff_eq_append.1 start

/-- A path goes on up to the query. -/
theorem pathOf_append (isPath : IsPath path) (isQuery : IsQuery query) :
    pathOf (path ++ query) = path := by
  cases isPath with
  | none =>
    apply if_neg
    cases isQuery with
    | none => nofun
    | some rest full line => simp
  | some rest plain =>
    have cut : Text.Cut (· ≠ '?') ('/' :: rest ++ query) ('/' :: rest) query := by
      refine ⟨rfl, fun c member => ?_, fun c first => ?_⟩
      · rcases List.mem_cons.1 member with rfl | member
        · rfl
        · simpa using fun same : c = '?' => plain (same ▸ member)
      · cases isQuery with
        | none => cases first
        | some rest full line =>
          obtain ⟨⟩ := first
          rfl
    exact (if_pos rfl).trans cut.takeWhile_eq

def isName (c : Char) : Bool := c ≠ '/' && c ≠ '?'

theorem isName_iff {c : Char} : isName c = true ↔ c ≠ '/' ∧ c ≠ '?' := by
  simp [isName]

/-- A bucket goes on up to the path or the query. -/
theorem Lawful.cut (lawful : p.Lawful) : Text.Cut isName p.text p.bucket (p.path ++ p.query) where
  parts := List.append_assoc ..
  all c member := isName_iff.2 (lawful.bucket c member)
  stops c first := by
    obtain ⟨bucket, path, query⟩ := p
    cases lawful.path with
    | some rest plain =>
      obtain ⟨⟩ := first
      rfl
    | none =>
      cases lawful.query with
      | none => cases first
      | some rest full line =>
        obtain ⟨⟩ := first
        rfl

/-- The place that a text names. -/
def ofText? (s : List Char) : Option PlaceParts :=
  let bucket := s.takeWhile isName
  let rest := s.dropWhile isName
  (Bucket.query? (rest.drop (pathOf rest).length)).bind fun query =>
    if bucket.isEmpty then none else some ⟨bucket, pathOf rest, query⟩

theorem ofText?_eq_some_iff : ofText? s = some p ↔ s = p.text ∧ p.Lawful := by
  constructor
  · intro found
    obtain ⟨query, read, found⟩ := Option.bind_eq_some_iff.1 found
    obtain ⟨rfl, isQuery⟩ := query?_eq_some_iff.1 read
    by_cases empty : (s.takeWhile isName).isEmpty
    · rw [if_pos empty] at found
      cases found
    · rw [if_neg empty] at found
      obtain ⟨⟩ := found
      have cut := Text.cut_span isName s
      constructor
      · rw [text, List.append_assoc, pathOf_append_drop]
        exact cut.parts
      · exact ⟨by simpa using empty, fun c member => isName_iff.1 (cut.all c member),
          isPath_pathOf _, isQuery⟩
  · rintro ⟨rfl, lawful⟩
    have empty : ¬ p.bucket.isEmpty := by simpa using lawful.full
    unfold ofText?
    simp only [lawful.cut.takeWhile_eq, lawful.cut.dropWhile_eq,
      pathOf_append lawful.path lawful.query, List.drop_left]
    rw [query?_eq_some_iff.2 ⟨rfl, lawful.query⟩, Option.bind_some, if_neg empty]

end PlaceParts

/-- The parts of a root. A third slash belongs to the scheme. -/
structure RootParts extends PlaceParts where
  name : List Char
  extra : Bool

namespace RootParts

variable {s name rest : List Char} {p : RootParts}

/-- The slashes of a scheme after the first two. -/
def slash (extra : Bool) : List Char := if extra then ['/'] else []

def scheme (p : RootParts) : List Char := p.name ++ "://".toList ++ slash p.extra

def text (p : RootParts) : List Char := p.scheme ++ p.bucket ++ p.path ++ p.query

/-- A name of a scheme starts with a letter and goes on. -/
inductive IsName : List Char → Prop where
  | mk (first : Char) (more : List Char) (letter : first.isLower = true) (full : more ≠ [])
      (all : ∀ c ∈ more, Bucket.isSchemeChar c = true) : IsName (first :: more)

structure Lawful (p : RootParts) : Prop where
  name : IsName p.name
  place : p.toPlaceParts.Lawful

theorem IsName.cut (isName : IsName name) (rest : List Char) :
    Text.Cut Bucket.isSchemeChar (name ++ ("://".toList ++ rest)) name ("://".toList ++ rest) where
  parts := rfl
  all := by
    cases isName with
    | mk first more letter full all =>
      intro c member
      rcases List.mem_cons.1 member with rfl | later
      · simp [Bucket.isSchemeChar, letter]
      · exact all c later
  stops c first := by
    obtain ⟨⟩ := first
    rfl

theorem splitScheme?_eq_some_iff : Bucket.splitScheme? s = some (name, rest) ↔
    s = name ++ ("://".toList ++ rest) ∧ IsName name := by
  constructor
  · intro found
    have cut := Text.cut_span Bucket.isSchemeChar s
    simp only [Bucket.splitScheme?] at found
    split at found
    · rename_i first second more after named slashes
      by_cases letter : first.isLower
      · rw [if_pos letter] at found
        obtain ⟨rfl, rfl⟩ := Prod.mk.inj (Option.some.inj found)
        have all := cut.all
        rw [named] at all ⊢
        refine ⟨?_, .mk first _ letter (List.cons_ne_nil _ _) fun c later =>
          all c (List.mem_cons_of_mem _ later)⟩
        have parts := cut.parts
        rw [named, slashes] at parts
        exact parts
      · rw [if_neg letter] at found
        cases found
    · cases found
  · rintro ⟨rfl, isName⟩
    have cut := isName.cut rest
    unfold Bucket.splitScheme?
    rw [cut.takeWhile_eq, cut.dropWhile_eq]
    cases isName with
    | mk first more letter full all =>
      cases more with
      | nil => exact absurd rfl full
      | cons second more => exact if_pos letter

/-- A third slash, and what follows it. -/
def third : List Char → Bool × List Char
  | '/' :: rest => (true, rest)
  | rest => (false, rest)

theorem slash_append_third (s : List Char) : slash (third s).1 ++ (third s).2 = s := by
  unfold third
  split <;> rfl

theorem third_append {extra : Bool} (other : s.head? ≠ some '/') :
    third (slash extra ++ s) = (extra, s) := by
  cases extra with
  | true => rfl
  | false =>
    change third s = (false, s)
    unfold third
    split
    · exact absurd rfl other
    · rfl

def ofText? (s : List Char) : Option RootParts :=
  (Bucket.splitScheme? s).bind fun split =>
    (PlaceParts.ofText? (third split.2).2).map (⟨·, split.1, (third split.2).1⟩)

structure IsOf (p : RootParts) (root : String) : Prop where
  lawful : p.Lawful
  text : p.text = root.toList

def IsFor (p : RootParts) (provider : StorageProvider) : Prop :=
  p.scheme = (provider.name ++ "://").toList

theorem text_eq (p : RootParts) :
    p.text = p.name ++ ("://".toList ++ (slash p.extra ++ p.toPlaceParts.text)) := by
  simp only [text, scheme, PlaceParts.text, List.append_assoc]

theorem ofText?_eq_some_iff : ofText? s = some p ↔ s = p.text ∧ p.Lawful := by
  constructor
  · intro found
    obtain ⟨⟨name, rest⟩, split, found⟩ := Option.bind_eq_some_iff.1 found
    obtain ⟨place, named, rfl⟩ := Option.map_eq_some_iff.1 found
    obtain ⟨rfl, isName⟩ := splitScheme?_eq_some_iff.1 split
    obtain ⟨same, lawful⟩ := PlaceParts.ofText?_eq_some_iff.1 named
    refine ⟨?_, isName, lawful⟩
    rw [text_eq, ← same, slash_append_third]
  · rintro ⟨rfl, isName, lawful⟩
    have other : p.toPlaceParts.text.head? ≠ some '/' := by
      obtain ⟨c, more, form⟩ := List.exists_cons_of_ne_nil lawful.full
      intro first
      rw [PlaceParts.text, form] at first
      obtain ⟨⟩ := first
      exact (lawful.bucket '/' (form ▸ List.mem_cons_self)).1 rfl
    unfold ofText?
    rw [text_eq, splitScheme?_eq_some_iff.2 ⟨rfl, isName⟩, Option.bind_some, third_append other,
      PlaceParts.ofText?_eq_some_iff.2 ⟨rfl, lawful⟩]
    rfl

theorem ofText?_toList_eq_some_iff {root : String} :
    ofText? root.toList = some p ↔ p.IsOf root := by
  rw [ofText?_eq_some_iff]
  exact ⟨fun ⟨text, lawful⟩ => ⟨lawful, text.symm⟩, fun isOf => ⟨isOf.text.symm, isOf.lawful⟩⟩

theorem IsOf.unique {root : String} {other : RootParts} (isOf : p.IsOf root)
    (isOf' : other.IsOf root) : p = other := by
  have found := ofText?_toList_eq_some_iff.2 isOf
  rw [ofText?_toList_eq_some_iff.2 isOf'] at found
  exact (Option.some.inj found).symm

/-- The provider of a root is the name of its scheme, unless there is a third slash. -/
theorem Lawful.isFor_iff (lawful : p.Lawful) {provider : StorageProvider} : p.IsFor provider ↔
    p.extra = false ∧ StorageProvider.ofName? (String.ofList p.name) = some provider := by
  have known : Text.Cut Bucket.isSchemeChar (provider.name ++ "://").toList provider.name.toList
      "://".toList := by
    refine ⟨String.toList_append, ?_, fun c first => ?_⟩
    · cases provider <;> simp [StorageProvider.name] <;> decide
    · obtain ⟨⟩ := first
      rfl
  have cut := lawful.name.cut (slash p.extra)
  rw [StorageProvider.ofName?_eq_some_iff]
  constructor
  · intro same
    rw [IsFor, scheme, List.append_assoc] at same
    rw [same] at cut
    have name := cut.takeWhile_eq.symm.trans known.takeWhile_eq
    have rest := cut.dropWhile_eq.symm.trans known.dropWhile_eq
    refine ⟨?_, by rw [name, String.ofList_toList]⟩
    cases extra : p.extra with
    | false => rfl
    | true =>
      rw [extra] at rest
      exact absurd rest (by decide)
  · rintro ⟨extra, name⟩
    have name : p.name = provider.name.toList := by rw [← name, String.toList_ofList]
    rw [IsFor, scheme, extra, String.toList_append, name]
    exact List.append_nil _

end RootParts

end TaskGraph

namespace TaskGraph.Bucket

/-- The bucket of a root whose scheme is a provider's. -/
def ofParts (p : RootParts) : Except BucketFault Bucket :=
  match if p.extra then none else StorageProvider.ofName? (String.ofList p.name) with
  | none => .error .unsupported
  | some provider => .ok ⟨provider, String.ofList p.bucket, String.ofList (prefixOf p.path),
      String.ofList p.query⟩

/-- The query is read before the bucket is looked at. -/
def ofQuery (bucket path name : List Char) (extra : Bool) :
    Option (List Char) → Except BucketFault Bucket
  | none => .error .unrecognized
  | some query =>
    if bucket.isEmpty then .error .unrecognized else ofParts ⟨⟨bucket, path, query⟩, name, extra⟩

theorem parse_eq (root : String) :
    parse root = (RootParts.ofText? root.toList).elim (.error .unrecognized) ofParts := by
  unfold parse RootParts.ofText?
  cases splitScheme? root.toList with
  | none => rfl
  | some split =>
    obtain ⟨name, rest⟩ := split
    let third := RootParts.third rest
    let bucket := third.2.takeWhile PlaceParts.isName
    let after := third.2.dropWhile PlaceParts.isName
    change ofQuery bucket (PlaceParts.pathOf after) name third.1
        (query? (after.drop (PlaceParts.pathOf after).length)) =
      (((query? (after.drop (PlaceParts.pathOf after).length)).bind fun query =>
        if bucket.isEmpty then none else some ⟨bucket, PlaceParts.pathOf after, query⟩).map
          (⟨·, name, third.1⟩)).elim (.error .unrecognized) ofParts
    cases query? (after.drop (PlaceParts.pathOf after).length) with
    | none => rfl
    | some query => cases bucket <;> rfl

/-- A key that is not empty is closed by a slash. -/
inductive Closes : List Char → List Char → Prop where
  | empty : Closes [] []
  | closed (key : List Char) (last : key.getLast? = some '/') : Closes key key
  | open (key : List Char) (full : key ≠ []) (last : key.getLast? ≠ some '/') :
      Closes key (key ++ ['/'])

/-- What a bucket holds of the root that it is read from. -/
structure IsOf (b : Bucket) (p : RootParts) : Prop where
  scheme : b.scheme.toList = p.scheme
  provider : b.provider.name.toList = p.name
  name : b.name.toList = p.bucket
  query : b.query.toList = p.query
  keyPrefix : ∃ slashes key, p.path = slashes ++ key ∧ (∀ c ∈ slashes, c = '/') ∧
    key.head? ≠ some '/' ∧ Closes key b.keyPrefix.toList

theorem prefixOf_closes (path : List Char) : ∃ slashes key, path = slashes ++ key ∧
    (∀ c ∈ slashes, c = '/') ∧ key.head? ≠ some '/' ∧ Closes key (prefixOf path) := by
  have cut := Text.cut_span (· = '/') path
  refine ⟨_, _, cut.parts, fun c member => by simpa using cut.all c member, ?_, ?_⟩
  · intro first
    exact absurd (cut.stops '/' first) (by decide)
  · unfold prefixOf
    split
    · rename_i none
      rw [none]
      exact .empty
    · rename_i full
      by_cases last : (path.dropWhile (· = '/')).getLast? = some '/'
      · rw [if_pos last]
        exact .closed _ last
      · rw [if_neg last]
        exact .open _ full last

variable {p : RootParts} {provider : StorageProvider} {root : String}

theorem ofParts_of_isFor (lawful : p.Lawful) (isFor : p.IsFor provider) :
    ∃ b, ofParts p = .ok b ∧ b.IsOf p := by
  obtain ⟨extra, named⟩ := lawful.isFor_iff.1 isFor
  have name := StorageProvider.ofName?_eq_some_iff.1 named
  refine ⟨⟨provider, String.ofList p.bucket, String.ofList (prefixOf p.path),
    String.ofList p.query⟩, ?_, isFor.symm, ?_, String.toList_ofList, String.toList_ofList, ?_⟩
  · unfold ofParts
    rw [extra, named]
    rfl
  · rw [← name, String.toList_ofList]
  · rw [String.toList_ofList]
    exact prefixOf_closes p.path

theorem ofParts_of_not_isFor (lawful : p.Lawful) (none : ∀ provider, ¬ p.IsFor provider) :
    ofParts p = .error .unsupported := by
  unfold ofParts
  cases extra : p.extra with
  | true => rfl
  | false =>
    cases named : StorageProvider.ofName? (String.ofList p.name) with
    | none => rfl
    | some provider => exact absurd (lawful.isFor_iff.2 ⟨extra, named⟩) (none provider)

theorem ofRoot_of_isFor (isOf : p.IsOf root) (isFor : p.IsFor provider) :
    ∃ b, ofRoot root = .ok b ∧ b.IsOf p := by
  obtain ⟨b, made, held⟩ := ofParts_of_isFor isOf.lawful isFor
  refine ⟨b, ?_, held⟩
  rw [ofRoot, parse_eq, RootParts.ofText?_toList_eq_some_iff.2 isOf, Option.elim_some, made]

theorem ofRoot_of_not_isFor (isOf : p.IsOf root) (none : ∀ provider, ¬ p.IsFor provider) :
    ofRoot root = .fail (.unsupportedBucket root) := by
  rw [ofRoot, parse_eq, RootParts.ofText?_toList_eq_some_iff.2 isOf, Option.elim_some,
    ofParts_of_not_isFor isOf.lawful none]

theorem ofRoot_of_not_isOf (none : ∀ p : RootParts, ¬ p.IsOf root) :
    ofRoot root = .fail (.unrecognizedRoot root) := by
  have apart : RootParts.ofText? root.toList = .none := by
    apply Option.eq_none_iff_forall_ne_some.2
    intro p found
    exact none p (RootParts.ofText?_toList_eq_some_iff.1 found)
  rw [ofRoot, parse_eq, apart, Option.elim_none]

theorem ofRoot_cases (root : String) :
    (∃ p provider b, RootParts.IsOf p root ∧ p.IsFor provider ∧ ofRoot root = .ok b ∧ b.IsOf p) ∨
    (∃ p, RootParts.IsOf p root ∧ ofRoot root = .fail (.unsupportedBucket root)) ∨
    (∀ p, ¬ RootParts.IsOf p root) ∧ ofRoot root = .fail (.unrecognizedRoot root) := by
  by_cases apart : ∃ p, RootParts.IsOf p root
  · obtain ⟨p, isOf⟩ := apart
    by_cases known : ∃ provider, p.IsFor provider
    · obtain ⟨provider, isFor⟩ := known
      obtain ⟨b, read, held⟩ := ofRoot_of_isFor isOf isFor
      exact .inl ⟨p, provider, b, isOf, isFor, read, held⟩
    · exact .inr (.inl ⟨p, isOf, ofRoot_of_not_isFor isOf (not_exists.1 known)⟩)
  · have none := not_exists.1 apart
    exact .inr (.inr ⟨none, ofRoot_of_not_isOf none⟩)

/-- A root names a bucket exactly if its scheme is a provider's. It comes apart in one way, and the
bucket holds its parts. Every other root is invalid. -/
theorem ofRoot_reads_parts (root : String) :
    ((∃ b, ofRoot root = .ok b) ↔ ∃ p provider, RootParts.IsOf p root ∧ p.IsFor provider) ∧
    (∀ p, RootParts.IsOf p root → (∀ other, RootParts.IsOf other root → other = p) ∧
      ∀ b, ofRoot root = .ok b → b.IsOf p) ∧
    ∀ error, ofRoot root = .error error → error.kind = .validation ∧
      ((∃ p, RootParts.IsOf p root) → error = Fault.unsupportedBucket root) ∧
      ((∀ p, ¬ RootParts.IsOf p root) → error = Fault.unrecognizedRoot root) := by
  refine ⟨⟨?_, ?_⟩, ?_, ?_⟩
  · rintro ⟨b, read⟩
    obtain ⟨p, provider, _, isOf, isFor, -⟩ | ⟨_, -, failed⟩ | ⟨-, failed⟩ := ofRoot_cases root
    · exact ⟨p, provider, isOf, isFor⟩
    · cases read.symm.trans failed
    · cases read.symm.trans failed
  · rintro ⟨p, provider, isOf, isFor⟩
    obtain ⟨b, read, -⟩ := ofRoot_of_isFor isOf isFor
    exact ⟨b, read⟩
  · intro p isOf
    refine ⟨fun other isOf' => isOf'.unique isOf, fun b read => ?_⟩
    obtain ⟨p', _, b', isOf', -, read', held⟩ | ⟨_, -, failed⟩ | ⟨-, failed⟩ := ofRoot_cases root
    · obtain ⟨⟩ := read'.symm.trans read
      exact isOf'.unique isOf ▸ held
    · cases read.symm.trans failed
    · cases read.symm.trans failed
  · intro error failed
    obtain ⟨_, _, b, -, -, read, -⟩ | ⟨p, isOf, failed'⟩ | ⟨none, failed'⟩ := ofRoot_cases root
    · cases read.symm.trans failed
    · obtain ⟨⟩ := failed'.symm.trans failed
      exact ⟨rfl, fun _ => rfl, fun none => absurd isOf (none p)⟩
    · obtain ⟨⟩ := failed'.symm.trans failed
      exact ⟨rfl, fun ⟨p, isOf⟩ => absurd isOf (none p), fun _ => rfl⟩

/-- The slashes at the start of a path go, and one at its end comes. -/
example : (ofRoot "minio://mlpipeline//v2/artifacts?region=x").toOption.map
    (fun b => (b.name, b.keyPrefix, b.query)) = some ("mlpipeline", "v2/artifacts/", "?region=x") := by
  rfl

/-- A third slash makes another scheme, not a bucket without a name. -/
example : ofRoot "gs:///bucket" = .fail (.unsupportedBucket "gs:///bucket") := by rfl

example : ofRoot "gs://bucket?" = .fail (.unrecognizedRoot "gs://bucket?") := by rfl

end TaskGraph.Bucket
