/-!
# Command numbers

The command numbers of the common message set. A command message with another number is unreadable.
-/

namespace VehicleLink.KnownCommand

/-- The known command numbers, as inclusive ranges in ascending order. -/
def ranges : List (Nat × Nat) :=
  [(16, 25), (30, 34), (80, 82), (84, 84), (85, 85), (92, 95), (112, 115), (159, 159),
   (176, 187), (189, 198), (200, 214), (220, 224), (240, 243), (245, 245), (246, 246),
   (252, 252), (260, 260), (300, 300), (310, 310), (311, 311), (400, 400), (401, 401),
   (405, 405), (410, 410), (420, 420), (500, 500), (510, 512), (519, 522), (525, 533),
   (600, 600), (601, 601), (1000, 1000), (1001, 1001), (2000, 2005), (2010, 2010), (2500, 2505),
   (2510, 2510), (2511, 2511), (2520, 2520), (2600, 2600), (2800, 2800), (3000, 3000),
   (3001, 3001), (4000, 4000), (4001, 4001), (4501, 4501), (5000, 5004), (5100, 5100),
   (5200, 5200), (10001, 10001), (30001, 30001), (30002, 30002), (31000, 31014), (32000, 32000),
   (42006, 42006), (42600, 42600)]

/-- Whether a command number is known. -/
def isKnown (command : UInt16) : Bool :=
  ranges.any fun range => range.1 ≤ command.toNat && command.toNat ≤ range.2

/-- The command that arms or disarms the motors, depending on its first parameter. -/
def armDisarm : UInt16 := 400

end VehicleLink.KnownCommand
