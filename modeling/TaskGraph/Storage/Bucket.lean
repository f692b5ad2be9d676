import TaskGraph.Text.Basic

/-!
# Buckets

A pipeline root names a place in an object store: a scheme, a bucket, a path in it and a query.
-/

namespace TaskGraph

inductive StorageProvider where
  | gs
  | s3
  | minio
  deriving DecidableEq, Repr

def StorageProvider.name : StorageProvider → String
  | .gs => "gs"
  | .s3 => "s3"
  | .minio => "minio"

def StorageProvider.ofName? : String → Option StorageProvider
  | "gs" => some .gs
  | "s3" => some .s3
  | "minio" => some .minio
  | _ => none

/-- The place a pipeline root names. `keyPrefix` is empty or ends with a slash, `query` is empty or
starts with a question mark. -/
structure Bucket where
  provider : StorageProvider
  name : String
  keyPrefix : String
  query : String
  deriving DecidableEq

inductive BucketFault where
  | unrecognized
  | unsupported
  deriving DecidableEq, Repr

namespace Bucket

def scheme (b : Bucket) : String := b.provider.name ++ "://"

def isSchemeChar (c : Char) : Bool := c.isLower || c.isDigit

/-- The name of a scheme and what follows its two slashes. -/
def splitScheme? (s : List Char) : Option (List Char × List Char) :=
  let name := s.takeWhile isSchemeChar
  match name, s.dropWhile isSchemeChar with
  | first :: _ :: _, ':' :: '/' :: '/' :: rest =>
    if first.isLower then some (name, rest) else none
  | _, _ => none

/-- The query at the end of a root: nothing, or a question mark and more text on the same line. -/
def query? : List Char → Option (List Char)
  | [] => some []
  | '?' :: rest => if rest.isEmpty || rest.contains '\n' then none else some ('?' :: rest)
  | _ => none

/-- A path without its leading slashes and with one at its end. -/
def prefixOf (path : List Char) : List Char :=
  match path.dropWhile (· = '/') with
  | [] => []
  | key => if key.getLast? = some '/' then key else key ++ ['/']

def parse (root : String) : Except BucketFault Bucket :=
  match splitScheme? root.toList with
  | none => .error .unrecognized
  | some (scheme, rest) =>
    -- a third slash belongs to the scheme, and no such scheme is supported
    let (extra, rest) := match rest with
      | '/' :: rest => (true, rest)
      | rest => (false, rest)
    let isName (c : Char) : Bool := c ≠ '/' && c ≠ '?'
    let name := rest.takeWhile isName
    let rest := rest.dropWhile isName
    let path := if rest.head? = some '/' then rest.takeWhile (· ≠ '?') else []
    match query? (rest.drop path.length) with
    | none => .error .unrecognized
    | some query =>
      if name.isEmpty then .error .unrecognized
      else
        match if extra then none else StorageProvider.ofName? (String.ofList scheme) with
        | none => .error .unsupported
        | some provider =>
          .ok ⟨provider, String.ofList name, String.ofList (prefixOf path), String.ofList query⟩

/-- The bucket and the path in it, without a slash at the end. -/
def location (b : Bucket) : String :=
  String.ofList (Text.dropEnd (· = '/') (b.scheme ++ b.name ++ "/" ++ b.keyPrefix).toList)

end Bucket

end TaskGraph
