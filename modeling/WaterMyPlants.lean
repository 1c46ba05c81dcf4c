import WaterMyPlants.Library.Run
import WaterMyPlants.ViewControllers.PlantTable
import WaterMyPlants.Garden.Display
import WaterMyPlants.Models.Plant
import WaterMyPlants.Garden.Step
import WaterMyPlants.Garden.Names
import WaterMyPlants.Garden.WellFormed
import WaterMyPlants.Garden.Saves
import WaterMyPlants.Garden.Edits
import WaterMyPlants.Garden.Isolation
import WaterMyPlants.Models.Upgrade
import WaterMyPlants.Session.Agreement
import WaterMyPlants.Session.Username
import WaterMyPlants.Session.Profile
import WaterMyPlants.Session.Success
import WaterMyPlants.App.Safety
import WaterMyPlants.Session.Moves
import WaterMyPlants.Session.Front
import WaterMyPlants.Session.Logins
import WaterMyPlants.Session.Accounts
import WaterMyPlants.App.Owners
import WaterMyPlants.App.Durable
import WaterMyPlants.Garden.Table
import WaterMyPlants.App.Tables
import WaterMyPlants.ViewControllers.Forms
import WaterMyPlants.ViewControllers.PlantScreens
import WaterMyPlants.Interface.Step
import WaterMyPlants.Interface.Front
import WaterMyPlants.Interface.Entries
import WaterMyPlants.Interface.Reminders
import WaterMyPlants.Interface.Forms
