import HostAgent.Shell.Braces
import HostAgent.Shell.Builtin
import HostAgent.Shell.DoubleBracket
import HostAgent.Shell.Fields
import HostAgent.Shell.Files
import HostAgent.Shell.Grammar
import HostAgent.Shell.Substitution

/-!
# Carrying out scripts

* `expand`, `expandFields` — words with their expansions carried out.
* `runCommand` — a command by its name: a function, a command of the shell itself, or a program.
* `run` — a script; `runLines` — a script that is given in tokens.
* `Process.carryOut` — the whole.

Every function has a bound on its depth, since a script may go on forever; one that reaches the
bound counts as taking forever.
-/

namespace HostAgent.Shell

/-- A shell that a process starts. -/
def Process.child (p : Process) (extended : Bool) (name : String) (arguments : List String) :
    Process :=
  { p with
    extended, name, arguments, id := p.id + 500, functions := [], traps := [], constants := []
    bindings := if (p.environment.get? "PATH").isSome then p.environment
      else p.environment.insert "PATH" p.searchPath
    jobs := [], strict := false, careful := false, tested := false, traced := false
    thorough := false, inFunction := false }

/-- The process after a shell that it has started. -/
def Process.afterChild (p child : Process) : Process :=
  let child := { child with clock := child.finish }
  let q : Process := { p.joined { child with flow := .onward } with input := child.input }
  match child.flow with
  | .killed n =>
    let q : Process := { q with status := 128 + n }
    if p.extended then q else q.say 2 (signalText n)
  | _ => { q with status := child.status }

/-- A process that gives the programs that it starts another variable. -/
def Process.exportPair (p : Process) (pair : String) : Process :=
  let k := String.ofList (pair.toList.takeWhile (· != '='))
  { p.set k (pair.drop (k.length + 1)).toString with exported := k :: p.exported }

/-- What a process has done up to a time. -/
def Process.cutAt (p : Process) (time : Nat) : Process :=
  { p with clock := time, written := p.written.filter (·.time ≤ time) }

mutual

/-- The pieces of a word. -/
def expand : Nat → Word → Process → List Piece × Process
  | 0, _, p => ([], p.stuck)
  | fuel + 1, w, p =>
    match w with
    | [] => ([], p)
    | part :: rest =>
      let (ps, p) := expandPart fuel part p
      let (more, p) := expand fuel rest p
      (ps ++ more, p)

/-- The pieces of a part of a word. -/
def expandPart : Nat → Part → Process → List Piece × Process
  | 0, _, p => ([], p.stuck)
  | fuel + 1, part, p =>
    let piece (quoted : Bool) (s : String) : Piece := if quoted then .text true s else .loose s
    match part with
    | .text q cs => ([.text q (String.ofList cs)], p)
    | .sum q cs =>
      let (s, p) := expandText fuel .document cs p
      match p.evaluate s.toList with
      | (some n, p) => ([piece q (toString n)], p)
      | (none, p) => ([], { p with status := if p.extended then 1 else 2, flow := .ended })
    | .output q cs =>
      let sink := p.sinks
      let copy := ({ p with sinks := sink + 1, jobs := [] }.lead 1 (.kept sink))
      let copy := runLines fuel (Token.ofChars p.extended cs) copy
      let out := copy.collected sink
      let p := p.joined copy
      if out.isEndless then ([], p.stuck)
      else
        let kept := ((out.bytes.reverse.dropWhile (· == 10)).reverse).filter (· != 0)
        ([piece q (Text.Utf8.lossy kept)], p)
    | .param q name operator argument =>
      if (name = "@" ∨ name = "*") ∧ operator.isEmpty then
        if q ∧ name = "*" then ([piece q (" ".intercalate p.arguments)], p)
        else (List.intersperse .boundary (p.arguments.map (piece q)), p)
      else
        let value := p.parameter? name
        let usable := match value with
          | some s => if operator.startsWith ":" then !s.isEmpty else true
          | none => false
        let instead (p : Process) : List Piece × Process :=
          match piecesOf p.extended (if q then .argument else .bare) argument with
          | .ok w => expand fuel w p
          | .error f => ([], { p.complain f.message with status := 2, flow := .ended })
        let current := value.getD ""
        match operator with
        | "length" => ([piece q (toString current.length)], p)
        | ":-" | "-" => if usable then ([piece q current], p) else instead p
        | ":+" | "+" => if usable then instead p else ([piece q ""], p)
        | ":=" | "=" =>
          if usable then ([piece q current], p)
          else
            let (ps, p) := instead p
            ([piece q (textOf ps)], p.set name (textOf ps))
        | ":?" | "?" =>
          if usable then ([piece q current], p)
          else
            let (ps, p) := instead p
            let why := if !argument.isEmpty then textOf ps
              else if operator = ":?" then "parameter not set or null" else "parameter not set"
            let p := p.complain (name ++ ": " ++ why)
            ([], { p with status := 2, flow := .ended })
        | "#" | "##" | "%" | "%%" =>
          match piecesOf p.extended .bare argument with
          | .error f => ([], { p.complain f.message with status := 2, flow := .ended })
          | .ok w =>
            let (ps, p) := expand fuel w p
            let longest := operator.length = 2
            let cs := if operator.startsWith "#" then
                Pattern.dropPrefix longest (patternOf ps) current.toList
              else Pattern.dropSuffix longest (patternOf ps) current.toList
            ([piece q (String.ofList cs)], p)
        | "other" =>
          match if p.extended then Substitution.perform? argument current else none with
          | some s => ([piece q s], p)
          | none => ([], { p.complain "Bad substitution" with status := 2, flow := .ended })
        | _ =>
          if value.isNone ∧ p.careful then
            let why := if p.extended then ": unbound variable" else ": parameter not set"
            let p := p.complain (name ++ why)
            ([], { p with status := if p.extended then 1 else 2, flow := .ended })
          else ([piece q current], p)

/-- The text of a source with its expansions carried out. -/
def expandText : Nat → Context → List Char → Process → String × Process
  | 0, _, _, p => ("", p.stuck)
  | fuel + 1, k, cs, p =>
    match piecesOf p.extended k cs with
    | .ok w =>
      let (ps, p) := expand fuel w p
      (textOf ps, p)
    | .error f => ("", { p.complain f.message with status := 2, flow := .ended })

/-- The fields of words. -/
def expandFields : Nat → List Word → Process → List String × Process
  | 0, _, p => ([], p.stuck)
  | fuel + 1, ws, p =>
    match if p.extended then ws.flatMap Word.alternatives else ws with
    | [] => ([], p)
    | w :: rest =>
      let (ps, p) := expand fuel w p
      -- a quoted list of no arguments is no field at all
      let ps := if p.arguments.isEmpty && w.any (fun
          | .param true "@" _ _ => true
          | _ => false) then ps.filter (· != .text true "") else ps
      let separators := ((p.lookUp? "IFS").getD " \t\n").toList
      let fields := fieldsOf separators.contains ps none
      let (more, p) := expandFields fuel rest p
      (fields ++ more, p)

/-- Carries out redirections; says whether all of them could be. -/
def redirectAll : Nat → List Redirect → Process → Bool × Process
  | 0, _, p => (false, p.stuck)
  | fuel + 1, rs, p =>
    match rs with
    | [] => (true, p)
    | r :: rest =>
      let (ps, p) := expand fuel r.target p
      let target := textOf ps
      let refuse (why : String) : Bool × Process := (false, { p.complain why with status := 2 })
      match r.direction with
      | .input =>
        match p.file? target with
        | some s => redirectAll fuel rest { p with input := s }
        | none => refuse (if p.extended then target ++ ": No such file or directory"
            else "cannot open " ++ target ++ ": No such file")
      | .document => redirectAll fuel rest { p with input := .ofText target }
      | .copy =>
        if target = "-" then
          redirectAll fuel rest
            (if r.channel = 0 then { p with input := {} } else p.lead r.channel .closed)
        else match target.toNat? with
          | some n =>
            if r.channel = 0 ∧ n = 0 then redirectAll fuel rest p
            else match p.channels.lookup n with
              | some .closed => refuse (target ++ ": Bad file descriptor")
              | some s => redirectAll fuel rest (p.lead r.channel s)
              | none => refuse (target ++ ": Bad file descriptor")
          | none => refuse (target ++ ": Bad fd number")
      | .output | .append =>
        if target = "/dev/null" ∨ target = "/dev/zero" then
          redirectAll fuel rest (p.lead r.channel .lost)
        else if target = "/dev/full" then redirectAll fuel rest (p.lead r.channel .full)
        else if target = "/dev/stdout" ∨ target = "/dev/fd/1" then
          redirectAll fuel rest (p.lead r.channel (p.sink 1))
        else if target = "/dev/stderr" ∨ target = "/dev/fd/2" then
          redirectAll fuel rest (p.lead r.channel (p.sink 2))
        else if p.isDirectory target then
          refuse (if p.extended then target ++ ": Is a directory"
            else "cannot create " ++ target ++ ": Is a directory")
        else if p.hasRoom target then
          let p := if r.direction = .output ∨ (p.file? target).isNone then p.store target [] else p
          redirectAll fuel rest (p.lead r.channel (.file target))
        else refuse (if p.extended then target ++ ": No such file or directory"
          else "cannot create " ++ target ++ ": Directory nonexistent")

/-- Does something with channels that lead elsewhere. -/
def runWithin : Nat → List Redirect → Script → Process → Process
  | 0, _, _, p => p.stuck
  | fuel + 1, rs, s, p =>
    if rs.isEmpty then run fuel s p
    else
      let (ok, q) := redirectAll fuel rs p
      if ok then
        let before := p.input
        let readsElsewhere := rs.any (·.channel == 0)
        let q := run fuel s q
        { q with channels := p.channels, input := if readsElsewhere then before else q.input }
      else { q with channels := p.channels, input := p.input }

/-- The stages of a pipeline, each with the input that the one before left it. -/
def runStages : Nat → List Script → Nat → Process → Process
  | 0, _, _, p => p.stuck
  | fuel + 1, ss, begun, p =>
    match ss with
    | [] => p
    | [s] =>
      let copy := run fuel s { p with jobs := [], clock := begun }
      let copy := { copy with clock := max p.clock copy.finish }
      p.joined copy
    | s :: rest =>
      let sink := p.sinks
      let copy := { p with jobs := [], clock := begun, sinks := sink + 1 }.lead 1 (.kept sink)
      let copy := run fuel s copy
      -- one that waits forever may still be ended by the next stage
      let ends := if copy.clock ≥ forever then p.clock else max p.clock copy.finish
      let copy := { copy with clock := ends }
      let q := { p.joined copy with input := copy.collected sink }
      let r := runStages fuel rest begun q
      if p.thorough && r.status = 0 then { r with status := q.status } else r

/-- Carries out a command of the shell itself. -/
def runBuiltin : Nat → String → List String → Process → Process
  | 0, _, _, p => p.stuck
  | fuel + 1, name, args, p =>
    match name, args with
    | ".", path :: _ | "source", path :: _ =>
      match p.file? path with
      | some s =>
        let q := runLines fuel (Token.ofChars p.extended (Text.Utf8.lossy s.bytes).toList) p.done
        { q with flow := if q.flow = .returning then .onward else q.flow }
      | none => p.lackingScript name path
    | "source", [] | ".", [] =>
      if p.extended then p.failing 2 (name ++ ": filename argument required") else p.done
    | "kill", args =>
      match p.signalAndTargets args with
      | .error q => q
      | .ok (n, targets) =>
        targets.foldl (fun p t =>
          match p.traps.lookup (toString n) with
          | some action =>
            if t = toString p.id ∧ n ≠ 9 then
              if action.isEmpty then p
              else { runLines fuel (Token.ofChars p.extended action) p with status := 0 }
            else p.signal n t
          | none => p.signal n t) p.done
    | "eval", args =>
      runLines fuel (Token.ofChars p.extended (" ".intercalate args).toList) p.done
    | "exec", name :: args =>
      let p := if (programOf? p name).isNone && !name.toList.contains '/' then
          p.failing 127 ("exec: " ++ name ++ ": not found")
        else runCommand fuel name args { p with functions := [] }
      { p with flow := match p.flow with
        | .killed n => .killed n
        | _ => .ended }
    | "command", "-v" :: name :: _ => p.sayCommand name
    | "command", name :: args => runCommand fuel name args { p with functions := [] }
    | name, args => (p.builtin? name args).getD p.done

/-- Carries out a command by its name. -/
def runCommand : Nat → String → List String → Process → Process
  | 0, _, _, p => p.stuck
  | fuel + 1, name, args, p =>
    match p.functions.lookup name with
    | some body =>
      let q := run fuel body { p with arguments := args, locals := [], inFunction := true }
      { q.restore q.locals with
          arguments := p.arguments, locals := p.locals, inFunction := p.inFunction
          flow := if q.flow = .returning then .onward else q.flow }
    | none =>
      if name = "[[" ∧ p.extended then
        match conditionHolds p.surroundings args.dropLast with
        | .ok b => { p with status := if b then 0 else 1 }
        | .error why => { p.complain ("[[: " ++ why) with status := 2 }
      else if (builtins p.extended).contains name ∧ name ≠ "[" then runBuiltin fuel name args p
      else
        match programOf? p name with
        | some name => runProgram fuel name args p
        | none =>
          if name.toList.contains '/' && p.isPresent name then
            let why := if p.extended && p.isDirectory name then ": Is a directory"
              else ": Permission denied"
            { p.complain (name ++ why) with status := 126 }
          else
            let text :=
              if p.extended && !name.toList.contains '/' then name ++ ": command not found"
              else if p.extended then name ++ ": No such file or directory"
              else name ++ ": not found"
            { p.complain text with status := 127 }

/-- Carries out a program of the machine. -/
def runProgram : Nat → String → List String → Process → Process
  | 0, _, _, p => p.stuck
  | fuel + 1, name, args, p =>
    -- what another program does is done in a copy
    let within (q : Process) (name : String) (args : List String) : Process :=
      runCommand fuel name args { q with functions := [] }
    match name, args with
    | "sh", "-c" :: script :: more | "dash", "-c" :: script :: more
    | "bash", "-c" :: script :: more =>
      let copy := p.child (name = "bash") (more.headD name) more.tail
      p.afterChild (runLines fuel (Token.ofChars copy.extended script.toList) copy)
    | "env", args =>
      let q := (args.takeWhile (·.toList.contains '=')).foldl Process.exportPair
        (if args.head? = some "-i" then { p with exported := [] } else p)
      match (args.filter (· != "-i")).dropWhile (·.toList.contains '=') with
      | [] =>
        let shown := (Program.run? q.surroundings "printenv" "env" [] q.input).getD {}
        p.afterProgram "env" { shown with left := p.input }
      | name :: args =>
        let q := within q name args
        { p.joined q with input := q.input }
    | "timeout", limit :: name :: args =>
      match Program.millisOf? limit with
      | none =>
        p.after (Program.misused "timeout" 125 ("invalid time interval '" ++ limit ++ "'"))
      | some millis =>
        let q := within { p with jobs := [] } name args
        if millis = 0 || q.clock ≤ p.clock + millis then { p.joined q with input := q.input }
        else { p.joined (q.cutAt (p.clock + millis)) with status := 124, input := q.input }
    | "nohup", name :: args | "nice", name :: args =>
      let q := within p name args
      { p.joined q with input := q.input }
    | name, args => p.perform name args

/-- Carries out a script. -/
def run : Nat → Script → Process → Process
  | 0, _, p => p.stuck
  | fuel + 1, s, p =>
    if p.flow ≠ .onward then p
    else match s with
    | .nothing => p
    | .sequence a b => run fuel b (run fuel a p)
    | .both a b =>
      let tested := p.tested
      let p : Process := { run fuel a { p with tested := true } with tested }
      if p.status = 0 then run fuel b p else p
    | .either a b =>
      let tested := p.tested
      let p : Process := { run fuel a { p with tested := true } with tested }
      if p.status = 0 then p else run fuel b p
    | .background a =>
      let job := p.id + 1 + p.jobs.length
      let copy := run fuel a { p with input := {}, jobs := [] }
      let q := p.joined { copy with flow := .onward, clock := p.clock }
      { q with
        status := 0, lastJob := some job
        jobs := p.jobs ++ [⟨job, copy.finish, copy.status, !a.isDetached⟩] }
    | .function name body => { p with functions := (name, body) :: p.functions, status := 0 }
    | .subshell a rs => checked (runWithin fuel rs (.piped false [a]) p)
    | .group a rs => runWithin fuel rs a p
    | .piped negated ss =>
      let tested := p.tested
      let q := runStages fuel ss p.clock { p with tested := p.tested || negated }
      let q := { q with tested, input := if ss.length = 1 then q.input else p.input }
      if negated then { q with status := if q.status = 0 then 1 else 0 } else checked q
    | .choice c a b rs =>
      if !rs.isEmpty then runWithin fuel rs (.choice c a b []) p
      else
        let tested := p.tested
        let p : Process := { run fuel c { p with tested := true } with tested }
        if p.flow ≠ .onward then p
        else if p.status = 0 then run fuel a p
        else run fuel b { p with status := 0 }
    | .loop untilTrue c body rs =>
      if !rs.isEmpty then runWithin fuel rs (.loop untilTrue c body []) p
      else
        let tested := p.tested
        let q : Process := { run fuel c { p with tested := true } with tested }
        if q.flow ≠ .onward then q
        else if (q.status = 0) = !untilTrue then
          let q := run fuel body q
          match q.flow with
          | .leaving n => { q with flow := if n ≤ 1 then .onward else .leaving (n - 1) }
          | .repeating n =>
            if n ≤ 1 then run fuel (.loop untilTrue c body []) { q with flow := .onward }
            else { q with flow := .repeating (n - 1) }
          | _ => run fuel (.loop untilTrue c body []) q
        else { q with status := 0 }
    | .each name words body rs =>
      if !rs.isEmpty then runWithin fuel rs (.each name words body []) p
      else
        let (items, p) := match words with
          | some ws => expandFields fuel ws p
          | none => (p.arguments, p)
        runEach fuel name items body { p with status := 0 }
    | .select w arms rs =>
      if !rs.isEmpty then runWithin fuel rs (.select w arms []) p
      else
        let (ps, p) := expand fuel w p
        runArms fuel (textOf ps) arms { p with status := 0 }
    | .simple assigned words redirects =>
      let (args, p) := expandFields fuel words p
      if p.flow ≠ .onward then p
      else
        let before := p
        let shown : List String := if p.traced then
            assigned.map fun (k, w) => k ++ "=" ++ textOf (expand fuel w p).1
          else []
        let p := if p.traced && !(shown.isEmpty && args.isEmpty) then
            p.say 2 ("+ " ++ " ".intercalate (shown ++ args) ++ "\n") else p
        let (ok, q) := redirectAll fuel redirects p
        if !ok then checked { q with channels := p.channels, input := p.input }
        else
          let assign (q : Process) : Process := assigned.foldl (fun q (k, w) =>
            let (ps, q) := expand fuel w q
            if q.constants.contains k then
              if q.extended then
                { q.complain (k ++ ": readonly variable") with status := 1, flow := .ended }
              else { q.complain (k ++ ": is read only") with status := 2, flow := .ended }
            else q.set k (textOf ps)) q
          match args with
          | [] =>
            let q := assign { q with status := 0 }
            checked { q with channels := p.channels, input := p.input }
          | name :: args =>
            let q := assign q
            if q.flow ≠ .onward then q else
            let q := if assigned.isEmpty then q
              else { q with exported := assigned.map (·.1) ++ q.exported }
            let q := runCommand fuel name args q
            let lasting := name = "exec" ∧ args.isEmpty
            let q := if lasting then q
              else { q with
                channels := before.channels
                input := if redirects.any (·.channel == 0) then before.input else q.input }
            let q := if assigned.isEmpty || (builtins p.extended).contains name then q
              else { q with bindings := before.bindings, exported := before.exported }
            checked q
where
  /-- A failure that nobody looks at ends a strict script. -/
  checked (p : Process) : Process :=
    if p.strict && !p.tested && p.status != 0 && p.flow = .onward then { p with flow := .ended }
    else p

/-- Carries out the body of a loop for each word. -/
def runEach : Nat → String → List String → Script → Process → Process
  | 0, _, _, _, p => p.stuck
  | fuel + 1, name, items, body, p =>
    match items with
    | [] => p
    | item :: rest =>
      let q := run fuel body (p.set name item)
      match q.flow with
      | .onward => runEach fuel name rest body q
      | .leaving n => { q with flow := if n ≤ 1 then .onward else .leaving (n - 1) }
      | .repeating n =>
        if n ≤ 1 then runEach fuel name rest body { q with flow := .onward }
        else { q with flow := .repeating (n - 1) }
      | _ => q

/-- Carries out the first arm with a pattern that fits. -/
def runArms : Nat → String → List (List Word × Script) → Process → Process
  | 0, _, _, p => p.stuck
  | fuel + 1, text, arms, p =>
    match arms with
    | [] => p
    | (patterns, body) :: rest =>
      let fits := patterns.any fun w =>
        Pattern.isMatch (patternOf (expand fuel w p).1) text.toList
      if fits then run fuel body p else runArms fuel text rest p

/-- Carries out a script that is given in tokens, line by line. -/
def runLines : Nat → List Token → Process → Process
  | 0, _, p => p.stuck
  | fuel + 1, ts, p =>
    if p.flow ≠ .onward then p
    else match line? ts with
      | none => p
      | some (.error f) =>
        let q := if p.extended then p.say 2 (p.name ++ ": -c: " ++ f.extendedMessage ++ "\n")
          else p.complain f.message
        { q with status := 2, flow := .ended }
      | some (.ok (s, rest)) => runLines fuel rest (run fuel s p)

end

/-- How deep scripts may go. -/
def depthLimit : Nat := 20000

/-- The options of a shell. -/
def shellOptions : List Char :=
  "abcCeEfiIlmnosuvVx".toList

/-- A shell that finds only options where it needs a script. -/
def Process.refuseOptions (p : Process) (options : List Char) : Process :=
  let unknown := if options = ['-'] then none else options.find? fun c => !shellOptions.contains c
  let why := match unknown, p.extended with
    | some c, false => ": 0: Illegal option -" ++ String.ofList [c]
    | some c, true => ": -" ++ String.ofList [c] ++ ": invalid option"
    | none, false => ": 0: -c requires an argument"
    | none, true => ": -c: option requires an argument"
  { p.say 2 (p.name ++ why ++ "\n") with status := 2 }

/-- Carries out a script, and what is to be done at the end. -/
def Process.carryOut (p : Process) (script : String) : Process :=
  let q := runLines depthLimit (Token.ofChars p.extended script.toList) p
  match q.flow, q.traps.lookup "0" with
  | .killed _, _ => q
  | _, none => q
  | _, some action =>
    let status := q.status
    let r := runLines depthLimit (Token.ofChars p.extended action)
      { q with flow := .onward, traps := [], strict := false }
    if r.flow = .ended then r else { r with status }

end HostAgent.Shell
