import NameLint.Command.Run

/-!
# The program

What the arguments lead to in the file system is copied into a tree, the program is run on the tree, and what
it prints is printed. Only the files that the run reads are copied with their content.
-/

namespace NameLint.Program

open NameLint.Command NameLint.Config NameLint.FileTree NameLint.Ignore NameLint.Scan

/-- The text of a location. -/
def placeText (place : Location) : String := "/" ++ "/".intercalate place

/-- The location that an absolute path without links names. -/
def placeOf (path : Path) : Location :=
  path.components.filterMap fun
    | .name name => some name
    | _ => none

/-- A tree that is being filled, and the directories of which everything is in it. -/
structure Copy where
  tree : Tree
  complete : List Location

/-- An action that fills a tree. -/
abbrev Copying := StateT Copy IO

/-- Changes the tree. -/
def change (f : Tree → Tree) : Copying Unit := modify fun c => { c with tree := f c.tree }

/-- Copies what lies at a location, but nothing below it and no content. A link is copied with the location
that it leads to in the end, or if there is none as one that leads to itself. -/
def copyNode (place : Location) : Copying Unit := do
  if ((← get).tree.node? place).isSome then return
  try
    let entry := (← IO.FS.realPath (placeText place.dropLast)) / place.getLastD ""
    match (← entry.symlinkMetadata).type with
    | .dir => change (·.plant place .directory)
    | .file => change (·.plant place (.file []))
    | .symlink =>
      try
        let target ← IO.FS.realPath entry
        change (·.plant place (.link target.toString))
        match (← target.metadata).type with
        | .dir => change (·.addDirectories (placeOf target.toString))
        | .file => change (·.plant (placeOf target.toString) (.file []))
        | .other | .symlink => pure ()
      catch _ => change (·.plant place (.link (place.getLastD "")))
    | .other => pure ()
  catch _ => pure ()

/-- Copies everything that a walk of a directory can meet. -/
partial def copyBelow (place : Location) : Copying Unit := do
  if (← get).complete.contains place then return
  modify fun c => { c with complete := place :: c.complete }
  let entries ← try (← IO.FS.realPath (placeText place)).readDir catch _ => pure #[]
  for entry in entries do
    let below := place ++ [entry.fileName]
    copyNode below
    match (← get).tree.resolve (placeText below) with
    | .ok target =>
      if (← get).tree.node? target = some .directory then copyBelow target
    | .error _ => pure ()

/-- Copies what lies on the way along a path, and tells where the way ends if it does not break off. -/
def copyWay (place : Location) : List Component → Copying (Option Location)
  | [] => pure (some place)
  | .root :: rest => copyWay [] rest
  | .here :: rest => copyWay place rest
  | .above :: rest => copyWay place.dropLast rest
  | .name name :: rest => do
    copyNode (place ++ [name])
    match (← get).tree.resolve (placeText (place ++ [name])) with
    | .ok target => copyWay target rest
    | .error _ => pure none

/-- Copies the content of the file that a path leads to. -/
def copyContent (path : Path) : Copying Unit := do
  match (← get).tree.resolve path with
  | .ok place =>
    if let some (.file _) := (← get).tree.node? place then
      let content ← IO.FS.readBinFile (placeText place)
      change (·.set place (.file content.toList))
  | .error _ => pure ()

/-- Copies a file that is read before the scan. -/
def copyFile (path : Path) : Copying Unit := do
  let _ ← copyWay (← get).tree.home path.steps
  copyContent path

/-- Copies everything that a scan with some options can meet. -/
def copyFor (o : Options) : Copying Unit := do
  match o.request with
  | .error _ => pure ()
  | .ok request =>
    copyFile request.configPath
    request.ignore?.forM copyFile
    for path in request.paths do
      if let some place ← copyWay (← get).tree.home path.steps then
        if (← get).tree.node? place = some .directory then copyBelow place
    let tree := (← get).tree
    let filter := match request.ignore? with
      | some path => (IgnoreFilter.load tree path).toOption.getD .none
      | none => .none
    match discover tree filter false request.paths with
    | .ok files => files.forM copyContent
    | .error _ => pure ()

/-- The tree for some arguments. -/
def copyTree (args : List String) : IO Tree := do
  let home := placeOf (← IO.currentDir).toString
  let (_, copy) ← ((Options.ofArguments args).toOption.forM copyFor).run ⟨.empty home, []⟩
  return copy.tree

end NameLint.Program

def main (args : List String) : IO UInt32 := do
  let outcome := NameLint.Command.run (← NameLint.Program.copyTree args) args
  IO.print outcome.output
  unless outcome.complaint.isEmpty do IO.eprintln ("error: " ++ outcome.complaint)
  return outcome.exit.code.toUInt32
