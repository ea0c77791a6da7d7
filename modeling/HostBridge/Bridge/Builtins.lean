import HostBridge.Bridge.Lifecycle

/-!
# Bundled bindings

The members that scripts use every frame: clock, screen, placements, colors, random
numbers, arithmetic and vectors. They are installed before the first call, in this
order.

## Main definitions

- `Builtins.registrations` — all bundled registrations
- `Bridge.new`, `Bridge.bundled` — a bridge without and with them
-/

namespace HostBridge

variable {ε : Type} [Embedding ε]

namespace Builtins

/-- A value that is read off the clock. -/
def ofClock (v : ValueType ε) (f : FrameClock → v.Carrier) : StaticMember ε :=
  .getter do return .value v (f (← get).environment.clock)

/-- A value that is read off the screen. -/
def ofScreen (v : ValueType ε) (f : Screen → v.Carrier) : StaticMember ε :=
  .getter do return .value v (f (← get).environment.screen)

/-- A value that never changes. -/
def constant (v : ValueType ε) (x : v.Carrier) : StaticMember ε :=
  .getter do return .value v x

/-- A function that works without host state. -/
def function (params : List (ValueType ε)) (v : ValueType ε)
    (f : Args params → v.Carrier) : StaticMember ε :=
  .method ⟨params, fun args => return .value v (f args)⟩

/-- The clock, which scripts also know as `Time`. -/
def time : List (Registration ε) :=
  [.typeName .clock "Time",
    .onType .clock "deltaTime" (ofClock .float32 (·.deltaTime)),
    .onType .clock "time" (ofClock .float64 (·.time)),
    .onType .clock "frameCount" (ofClock .uint64 (·.frameCount)),
    .onType .clock "timeScale" <| .property .float32
      (do return (← get).environment.clock.timeScale)
      (fun scale => Host.withClock fun clock => ((), clock.setTimeScale scale))]

/-- The screen. -/
def screen : List (Registration ε) :=
  [.onType .screen "width" (ofScreen .uint32 (·.width)),
    .onType .screen "height" (ofScreen .uint32 (·.height)),
    .onType .screen "dpi" (ofScreen .float32 (·.dpi)),
    .onType .screen "aspect" (ofScreen .float32 (·.aspect))]

/-- Placements of host objects. -/
def transform : List (Registration ε) :=
  [.onObjects .transform "position" <| .property .vec3
      (fun t => return t.position)
      (fun t position => return { t with position }),
    .onObjects .transform "rotation" <| .property .quat
      (fun t => return t.rotation)
      (fun t rotation => return { t with rotation := rotation.normalize }),
    .onObjects .transform "localScale" <| .property .vec3
      (fun t => return t.scale)
      (fun t scale => return { t with scale }),
    .onObjects .transform "forward" <| .getter fun t => return .value .vec3 t.forward,
    .onObjects .transform "translate" <| .method [.vec3]
      fun t (offset, ()) => return (.unit, t.translate offset),
    .onObjects .transform "lookAt" <| .method [.vec3]
      fun t (target, ()) => return (.unit, t.lookAt target)]

/-- Colors. -/
def color : List (Registration ε) :=
  [.packed .color,
    .onType .color "white" (constant (.struct .color) Color.white.toRecord),
    .onType .color "black" (constant (.struct .color) Color.black.toRecord),
    .onType .color "lerp" <|
      function [.struct .color, .struct .color, .float32] (.struct .color)
        fun (a, b, t, ()) => ((Color.ofRecord a).lerp (Color.ofRecord b) t).toRecord]

/-- The random stream. -/
def random : List (Registration ε) :=
  [.onNamespace "Random" "value" <| .getter do
      return .value .float32 (← Host.withRandom RandomStream.unit),
    .onNamespace "Random" "range" <| .method ⟨[.float32, .float32],
      fun (a, b, ()) => do return .value .float32 (← Host.withRandom (·.range a b))⟩,
    .onNamespace "Random" "reset" <| .method ⟨[], fun () => do
      Host.withRandom fun r => ((), r.reset)
      return .unit⟩]

/-- A function of one number. -/
def arithmetic1 (name : String) (f : Float32 → Float32) : Registration ε :=
  .onNamespace "Mathf" name (function [.float32] .float32 fun (x, ()) => f x)

/-- A function of two numbers. -/
def arithmetic2 (name : String) (f : Float32 → Float32 → Float32) : Registration ε :=
  .onNamespace "Mathf" name (function [.float32, .float32] .float32 fun (x, y, ()) => f x y)

/-- A function of three numbers. -/
def arithmetic3 (name : String) (f : Float32 → Float32 → Float32 → Float32) : Registration ε :=
  .onNamespace "Mathf" name
    (function [.float32, .float32, .float32] .float32 fun (x, y, z, ()) => f x y z)

/-- Arithmetic. -/
def arithmetic : List (Registration ε) :=
  [.onNamespace "Mathf" "PI" (constant .float32 Spatial.pi),
    arithmetic1 "abs" Float32.abs,
    arithmetic1 "sqrt" Float32.sqrt,
    arithmetic1 "sin" Float32.sin,
    arithmetic1 "cos" Float32.cos,
    arithmetic2 "min" Spatial.minNumber,
    arithmetic2 "max" Spatial.maxNumber,
    arithmetic3 "clamp" fun x low high => Spatial.minNumber (Spatial.maxNumber x low) high,
    arithmetic3 "lerp" fun a b t => a + (b - a) * Spatial.clampUnit t,
    arithmetic2 "atan2" Float32.atan2,
    arithmetic2 "pow" Float32.pow]

/-- Vectors. -/
def vector : List (Registration ε) :=
  [.onNamespace "Vector3" "zero" (constant .vec3 Vec3.zero),
    .onNamespace "Vector3" "one" (constant .vec3 Vec3.one),
    .onNamespace "Vector3" "up" (constant .vec3 Vec3.up),
    .onNamespace "Vector3" "forward" (constant .vec3 Vec3.forward),
    .onNamespace "Vector3" "distance" <|
      function [.vec3, .vec3] .float32 fun (a, b, ()) => a.distance b,
    .onNamespace "Vector3" "dot" <|
      function [.vec3, .vec3] .float32 fun (a, b, ()) => a.dot b,
    .onNamespace "Vector3" "cross" <|
      function [.vec3, .vec3] .vec3 fun (a, b, ()) => a.cross b,
    .onNamespace "Vector3" "normalize" <|
      function [.vec3] .vec3 fun (v, ()) => v.normalizeOrZero,
    .onNamespace "Vector3" "lerp" <|
      function [.vec3, .vec3, .float32] .vec3
        fun (a, b, t, ()) => a.lerp b (Spatial.clampUnit t)]

/-- All bundled registrations, in the order of their installation. -/
def registrations : List (Registration ε) :=
  time ++ screen ++ transform ++ color ++ random ++ arithmetic ++ vector

end Builtins

namespace Bridge

/-- A bridge on which nothing is registered. -/
def new (config : BridgeConfig) (host : Host ε) : Bridge ε :=
  { config, host }

/-- A bridge that installs the bundled bindings before the first call, unless its
    configuration says otherwise. -/
def bundled (config : BridgeConfig) (host : Host ε) : Bridge ε :=
  { config, host
    initializer := if config.installBundled then some (.bundled Builtins.registrations) else none }

end Bridge

end HostBridge
