import PriceMap.Lib.Runs
import PriceMap.Lib.InFlight
import PriceMap.Lib.Paging
import PriceMap.Lib.Throwing
import PriceMap.Lib.Machines
import PriceMap.Lib.Boxes
import PriceMap.Lib.Arrays
import PriceMap.Lib.Tallies
import PriceMap.Lib.Grids
import PriceMap.Lib.Interpolation
import PriceMap.Lib.Nearest
import PriceMap.Common.Json
import PriceMap.Common.Numerals
import PriceMap.Common.Doubles
import PriceMap.Android.Connections
import PriceMap.Android.Screen
import PriceMap.Android.Steps
import PriceMap.Android.Invariants
import PriceMap.Android.Startup
import PriceMap.Android.Requests
import PriceMap.Android.Contents
import PriceMap.Android.Failures
import PriceMap.Android.Listeners
import PriceMap.Android.Sheet
import PriceMap.Android.Taps
import PriceMap.Backend.Numbers
import PriceMap.Backend.DbService
import PriceMap.Backend.Brackets
import PriceMap.Backend.ApiService
import PriceMap.Backend.Search
import PriceMap.Backend.PriceService
import PriceMap.Backend.Averages
import PriceMap.Backend.PricesRequest
import PriceMap.Backend.Routes
import PriceMap.IOS.Records
import PriceMap.IOS.MapView
import PriceMap.IOS.Steps
import PriceMap.IOS.Markers
import PriceMap.IOS.Selection
import PriceMap.IOS.Spinner
import PriceMap.IOS.Heatmap
import PriceMap.IOS.Properties
import PriceMap.Wire.Prices
import PriceMap.Wire.Weights
import PriceMap.Wire.Requests
import PriceMap.Wire.Addresses
import PriceMap.Wire.Screens
import PriceMap.Wire.MapViews
import PriceMap.Tiles.QuadTree
import PriceMap.Tiles.Gradient
import PriceMap.Tiles.CreationData
import PriceMap.Tiles.Tile
import PriceMap.Tiles.Smoothing
import PriceMap.Tiles.Seams
import PriceMap.Tiles.Coloring
import PriceMap.Tiles.TileLayer
import PriceMap.IOS.HeatTiles
import PriceMap.Clusters.Algorithm
import PriceMap.Clusters.Partition
import PriceMap.Clusters.Renderer
import PriceMap.Clusters.Manager
