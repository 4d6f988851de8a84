/-! # Short auth strings

The emoji and the decimal numbers that two users compare. Every client maps the same index to the same
emoji, so the table and its order are fixed.
-/

namespace DeviceTrust

structure Emoji where
  symbol : String
  description : String
  deriving DecidableEq

namespace Emoji

def table : List Emoji := [
  ⟨"🐶", "Dog"⟩, ⟨"🐱", "Cat"⟩, ⟨"🦁", "Lion"⟩, ⟨"🐎", "Horse"⟩,
  ⟨"🦄", "Unicorn"⟩, ⟨"🐷", "Pig"⟩, ⟨"🐘", "Elephant"⟩, ⟨"🐰", "Rabbit"⟩,
  ⟨"🐼", "Panda"⟩, ⟨"🐓", "Rooster"⟩, ⟨"🐧", "Penguin"⟩, ⟨"🐢", "Turtle"⟩,
  ⟨"🐟", "Fish"⟩, ⟨"🐙", "Octopus"⟩, ⟨"🦋", "Butterfly"⟩, ⟨"🌷", "Flower"⟩,
  ⟨"🌳", "Tree"⟩, ⟨"🌵", "Cactus"⟩, ⟨"🍄", "Mushroom"⟩, ⟨"🌏", "Globe"⟩,
  ⟨"🌙", "Moon"⟩, ⟨"☁️", "Cloud"⟩, ⟨"🔥", "Fire"⟩, ⟨"🍌", "Banana"⟩,
  ⟨"🍎", "Apple"⟩, ⟨"🍓", "Strawberry"⟩, ⟨"🌽", "Corn"⟩, ⟨"🍕", "Pizza"⟩,
  ⟨"🎂", "Cake"⟩, ⟨"❤️", "Heart"⟩, ⟨"😀", "Smiley"⟩, ⟨"🤖", "Robot"⟩,
  ⟨"🎩", "Hat"⟩, ⟨"👓", "Glasses"⟩, ⟨"🔧", "Spanner"⟩, ⟨"🎅", "Santa"⟩,
  ⟨"👍", "Thumbs Up"⟩, ⟨"☂️", "Umbrella"⟩, ⟨"⌛", "Hourglass"⟩, ⟨"⏰", "Clock"⟩,
  ⟨"🎁", "Gift"⟩, ⟨"💡", "Light Bulb"⟩, ⟨"📕", "Book"⟩, ⟨"✏️", "Pencil"⟩,
  ⟨"📎", "Paperclip"⟩, ⟨"✂️", "Scissors"⟩, ⟨"🔒", "Lock"⟩, ⟨"🔑", "Key"⟩,
  ⟨"🔨", "Hammer"⟩, ⟨"☎️", "Telephone"⟩, ⟨"🏁", "Flag"⟩, ⟨"🚂", "Train"⟩,
  ⟨"🚲", "Bicycle"⟩, ⟨"✈️", "Aeroplane"⟩, ⟨"🚀", "Rocket"⟩, ⟨"🏆", "Trophy"⟩,
  ⟨"⚽", "Ball"⟩, ⟨"🎸", "Guitar"⟩, ⟨"🎺", "Trumpet"⟩, ⟨"🔔", "Bell"⟩,
  ⟨"⚓", "Anchor"⟩, ⟨"🎧", "Headphones"⟩, ⟨"📁", "Folder"⟩, ⟨"📌", "Pin"⟩]

theorem length_table : table.length = 64 := rfl

def ofIndex? (index : Nat) : Option Emoji := table[index]?

/-- The emoji of some indices; an index outside the table has none. -/
def ofIndices (indices : List Nat) : List Emoji := indices.filterMap ofIndex?

/-- One line of symbols above one line of descriptions. -/
def format (emoji : List Emoji) : String :=
  String.intercalate "  " (emoji.map (·.symbol)) ++ "\n" ++
    String.intercalate " | " (emoji.map (·.description))

end Emoji

def decimalText (decimals : List Nat) : String := String.intercalate " " (decimals.map Nat.repr)

end DeviceTrust
